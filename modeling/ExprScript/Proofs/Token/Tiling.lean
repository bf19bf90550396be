import Mathlib.Control.Monad.Basic
import Mathlib.Data.List.Pairwise
import ExprScript.Proofs.Source.Slices
import ExprScript.Proofs.Token.Separators

/-!
# Tilings of sources

A source with tokens is a separator, a lexeme, a separator, a lexeme and so on, each token with the
span of its lexeme; the end token stands behind the last separator. This is what reading tokens from
a place on gives, and every such tiling is read. A lexeme is a token by itself and no longer part of
the source is one, so nothing of the source is lost or belongs to two tokens.
-/

namespace ExprScript

open Scan

/-- `Tiled reads p text tokens`: from `p` on, the text is made of the tokens and of separators.
`reads` tells which lexemes a token has in front of a rest. -/
inductive Tiled (reads : List Char → Token → List Char → Prop) :
    Position → List Char → List SpannedToken → Prop where
  | last (p : Position) {gap : List Char} (separator : Separator false gap) :
      Tiled reads p gap [⟨.endOfInput, .point (p.after gap)⟩]
  | token {p : Position} {gap lexeme rest : List Char} {t : Token} {later : List SpannedToken}
      (separator : Separator true gap) (inside : t ≠ .endOfInput) (read : reads lexeme t rest)
      (tiled : Tiled reads (p.after (gap ++ lexeme)) rest later) :
      Tiled reads p (gap ++ lexeme ++ rest)
        (⟨t, ⟨p.after gap, p.after (gap ++ lexeme)⟩⟩ :: later)

namespace Tiled

variable {reads reads' : List Char → Token → List Char → Prop} {p : Position} {text : List Char}
  {tokens : List SpannedToken}

theorem mono (h : Tiled reads p text tokens)
    (weaker : ∀ lexeme t rest, reads lexeme t rest → reads' lexeme t rest) :
    Tiled reads' p text tokens := by
  induction h with
  | last p separator => exact .last p separator
  | token separator inside read _ ih => exact .token separator inside (weaker _ _ _ read) ih

/-- A text that starts with a lexeme has its token at the start. -/
theorem cons {lexeme rest : List Char} {t : Token} {later : List SpannedToken}
    (inside : t ≠ .endOfInput) (read : reads lexeme t rest)
    (tiled : Tiled reads (p.after lexeme) rest later) :
    Tiled reads p (lexeme ++ rest) (⟨t, ⟨p, p.after lexeme⟩⟩ :: later) :=
  .token .nil inside read tiled

/-- The end token stands behind the text, and is the last token and no other. -/
theorem ends (h : Tiled reads p text tokens) :
    ∃ front, tokens = front ++ [⟨.endOfInput, .point (p.after text)⟩] ∧
      ∀ t ∈ front, t.token ≠ .endOfInput := by
  induction h with
  | last p separator => exact ⟨[], rfl, by simp⟩
  | @token p gap lexeme rest t later _ inside _ _ ih =>
    obtain ⟨front, same, others⟩ := ih
    rw [same, ← Position.after_append]
    exact ⟨_ :: front, rfl, List.forall_mem_cons.2 ⟨inside, others⟩⟩

/-- A token with tokens behind it is not the end token. -/
theorem ne_end {t t' : SpannedToken} (h : Tiled reads p text (t :: t' :: tokens)) :
    t.token ≠ .endOfInput := by
  cases h
  assumption

/-- Every other token was read of a part of the text, and its span is the one of this part. -/
theorem read_of_mem (h : Tiled reads p text tokens) {t : SpannedToken} (mem : t ∈ tokens)
    (inside : t.token ≠ .endOfInput) : ∃ front lexeme rest, text = front ++ lexeme ++ rest ∧
      t.span = ⟨p.after front, p.after (front ++ lexeme)⟩ ∧ reads lexeme t.token rest := by
  induction h with
  | last p separator =>
    obtain rfl := List.mem_singleton.1 mem
    exact absurd rfl inside
  | @token p gap lexeme rest t' later _ _ read _ ih =>
    rcases List.mem_cons.1 mem with rfl | mem
    · exact ⟨gap, lexeme, rest, rfl, rfl, read⟩
    · obtain ⟨front, lexeme', rest', rfl, span, read'⟩ := ih mem
      refine ⟨gap ++ lexeme ++ front, lexeme', rest', by simp, ?_, read'⟩
      rw [span, List.append_assoc (gap ++ lexeme), Position.after_append p (gap ++ lexeme),
        Position.after_append p (gap ++ lexeme)]

/-- No token starts before the text. -/
theorem le_start (h : Tiled reads p text tokens) :
    ∀ t ∈ tokens, p.byte ≤ t.span.start.byte := by
  induction h with
  | last p separator => simp [Span.point, Position.byte_after]
  | token _ _ _ _ ih =>
    refine List.forall_mem_cons.2 ⟨by simp [Position.byte_after], fun t mem => ?_⟩
    have := ih t mem
    rw [Position.byte_after] at this
    omega

/-- Each token ends where the next starts or before. -/
theorem pairwise (h : Tiled reads p text tokens) :
    tokens.Pairwise fun t t' => t.span.stop.byte ≤ t'.span.start.byte := by
  induction h with
  | last p separator => exact List.pairwise_singleton _ _
  | token _ _ _ tiled ih => exact List.pairwise_cons.2 ⟨tiled.le_start, ih⟩

end Tiled

/-! ### Reading is tiling -/

theorem tokensFrom_eq (c : Cursor) :
    tokensFrom c = match c.nextToken with
      | (.error e, _) => .error e
      | (.ok t, behind) =>
        if t.token ≠ .endOfInput then (tokensFrom behind).map (t :: ·) else .ok [t] := by
  rw [tokensFrom]
  split <;> simp_all

theorem tokensFrom_congr {c c' : Cursor} (h : c.nextToken = c'.nextToken) :
    tokensFrom c = tokensFrom c' := by
  rw [tokensFrom_eq c, tokensFrom_eq c', h]

theorem tokensFrom_of_end {c behind : Cursor} {span : Span}
    (h : c.nextToken = (.ok ⟨.endOfInput, span⟩, behind)) :
    tokensFrom c = .ok [⟨.endOfInput, span⟩] := by
  rw [tokensFrom_eq, h]
  rfl

theorem tokensFrom_of_token {c behind : Cursor} {t : SpannedToken}
    (h : c.nextToken = (.ok t, behind)) (inside : t.token ≠ .endOfInput) :
    tokensFrom c = (tokensFrom behind).map (t :: ·) := by
  rw [tokensFrom_eq, h]
  exact if_pos inside

theorem stops_of_reads {lexeme rest : List Char} {t : Token} (h : Reads lexeme t rest) :
    Stops Text.isBlank (lexeme ++ rest) := by
  obtain ⟨c, more, rfl, filled⟩ := h.starts
  rintro _ ⟨⟩
  exact filled

theorem nextToken_of_reads {gap lexeme rest : List Char} {t : Token} (p : Position)
    (separator : Separator true gap) (h : Reads lexeme t rest) :
    Cursor.nextToken ⟨p, gap ++ lexeme ++ rest⟩ =
      (.ok ⟨t, ⟨p.after gap, p.after (gap ++ lexeme)⟩⟩, ⟨p.after (gap ++ lexeme), rest⟩) := by
  rw [List.append_assoc, Cursor.nextToken_separator p separator (.inl rfl),
    Cursor.nextToken_of_token _ (stops_of_reads h) (scan_of_reads h), Cursor.advance_append,
    Position.after_append]

theorem nextToken_of_last {gap : List Char} (p : Position) (separator : Separator false gap) :
    Cursor.nextToken ⟨p, gap⟩ =
      (.ok ⟨.endOfInput, .point (p.after gap)⟩, ⟨p.after gap, []⟩) := by
  have passed : Cursor.nextToken ⟨p, gap ++ []⟩ = _ :=
    Cursor.nextToken_separator p separator (.inr rfl)
  rw [List.append_nil] at passed
  rw [passed, Cursor.nextToken_of_token (t := .endOfInput) _ .nil rfl]
  rfl

/-- Whatever is tiled is read so. -/
theorem tokensFrom_of_tiled {p : Position} {text : List Char} {tokens : List SpannedToken}
    (h : Tiled Reads p text tokens) : tokensFrom ⟨p, text⟩ = .ok tokens := by
  induction h with
  | last p separator => exact tokensFrom_of_end (nextToken_of_last p separator)
  | token separator inside read _ ih =>
    rw [tokensFrom_of_token (nextToken_of_reads _ separator read) inside, ih]
    rfl

/-- The next token is the end behind a last separator, or stands behind a closed one. -/
theorem nextToken_cases {p : Position} {text : List Char} {t : SpannedToken} {behind : Cursor}
    (h : Cursor.nextToken ⟨p, text⟩ = (.ok t, behind)) :
    (Separator false text ∧ t = ⟨.endOfInput, .point (p.after text)⟩) ∨
      ∃ gap lexeme rest token, text = gap ++ lexeme ++ rest ∧ Separator true gap ∧
        Reads lexeme token rest ∧ t = ⟨token, ⟨p.after gap, p.after (gap ++ lexeme)⟩⟩ ∧
        behind = ⟨p.after (gap ++ lexeme), rest⟩ := by
  obtain ⟨closed, gap, ahead, split, separator, ends, stops, found⟩ :=
    Cursor.separator_in_front ⟨p, text⟩
  obtain rfl : text = gap ++ ahead := split
  cases ahead with
  | nil =>
    have last : Separator false (gap ++ []) := by
      rw [List.append_nil]
      cases closed with
      | true => exact separator.weaken
      | false => exact separator
    rw [nextToken_of_last p last] at h
    obtain ⟨rfl, -⟩ : ⟨.endOfInput, .point (p.after (gap ++ []))⟩ = t ∧ _ = behind := by
      simpa using h
    exact .inl ⟨last, rfl⟩
  | cons c ahead =>
    obtain rfl : closed = true := by simpa using ends
    rw [Cursor.nextToken_separator p separator (.inl rfl)] at h
    cases outcome : (scan (c :: ahead)).outcome with
    | error cause =>
      have failed := Cursor.nextToken_of_fault (p.after gap) stops outcome
      simp [h] at failed
    | ok read =>
      obtain ⟨token, rfl⟩ := Option.ne_none_iff_exists'.1 fun none => found (none ▸ outcome)
      obtain ⟨lexeme, rest, same, -, reads⟩ := leads_scan ahead token outcome
      rw [← Cursor.nextToken_separator p separator (.inl rfl), same, ← List.append_assoc,
        nextToken_of_reads p separator reads] at h
      obtain ⟨rfl, rfl⟩ : ⟨token, ⟨p.after gap, p.after (gap ++ lexeme)⟩⟩ = t ∧ _ = behind := by
        simpa using h
      refine .inr ⟨gap, lexeme, rest, token, ?_, separator, reads, rfl, rfl⟩
      rw [same, List.append_assoc]

/-- What is read from a place on is a tiling. -/
theorem tiled_of_tokensFrom {c : Cursor} {tokens : List SpannedToken}
    (h : tokensFrom c = .ok tokens) : Tiled Reads c.position c.rest tokens := by
  induction c using tokensFrom.induct generalizing tokens with
  | case1 c e behind read =>
    rw [tokensFrom] at h
    split at h <;> simp_all
  | case2 c t behind read inside ih =>
    obtain ⟨later, found, rfl⟩ : ∃ later, tokensFrom behind = .ok later ∧ t :: later = tokens := by
      rw [tokensFrom_of_token read inside] at h
      cases found : tokensFrom behind with
      | error e => simp [found, Except.map] at h
      | ok later => exact ⟨later, rfl, by simpa [found, Except.map] using h⟩
    rcases nextToken_cases read with
      ⟨-, rfl⟩ | ⟨gap, lexeme, rest, token, split, separator, reads, rfl, rfl⟩
    · exact absurd rfl inside
    · rw [split]
      exact .token separator inside reads (ih found)
  | case3 c t behind read last =>
    rcases nextToken_cases read with ⟨separator, rfl⟩ | ⟨_, _, _, _, _, _, reads, rfl, _⟩
    · obtain rfl : [_] = tokens := by simpa [tokensFrom_of_end read] using h
      exact .last c.position separator
    · exact absurd (Decidable.not_not.1 last) reads.ne_end

/-- The tokens from a place on are those that tile the rest of the source. -/
theorem tokensFrom_eq_ok_iff {p : Position} {text : List Char} {tokens : List SpannedToken} :
    tokensFrom ⟨p, text⟩ = .ok tokens ↔ Tiled Reads p text tokens :=
  ⟨tiled_of_tokensFrom, tokensFrom_of_tiled⟩

/-! ### Longest lexemes -/

/-- The text is the token and nothing else. -/
def Alone (text : List Char) (t : Token) : Prop :=
  tokenize text = .ok [⟨t, ⟨.start, .after .start text⟩⟩, ⟨.endOfInput, .point (.after .start text)⟩]

/-- The lexeme in front of `rest` is the token by itself, and no longer part of the text from its
start on is any token. -/
structure Munches (lexeme : List Char) (t : Token) (rest : List Char) : Prop where
  alone : Alone lexeme t
  longest : ∀ longer t', longer <+: lexeme ++ rest → lexeme.length < longer.length →
    ¬ Alone longer t'

theorem alone_of_reads {lexeme rest : List Char} {t : Token} (h : Reads lexeme t rest) :
    Alone lexeme t := by
  have ended : Reads lexeme t [] := h.cut (.of_isPrefix List.nil_prefix)
  have tiled : Tiled Reads .start ([] ++ lexeme ++ []) _ :=
    .token .nil h.ne_end ended (.last (.after .start ([] ++ lexeme)) .nil)
  have read := tokensFrom_of_tiled tiled
  rw [List.nil_append, List.append_nil] at read
  exact read

theorem reads_of_alone {text : List Char} {t : Token} (h : Alone text t) : Reads text t [] := by
  have tiled : Tiled Reads .start text _ := tiled_of_tokensFrom h
  obtain ⟨front, lexeme, rest, split, span, read⟩ :=
    tiled.read_of_mem List.mem_cons_self tiled.ne_end
  obtain rfl : text = front ++ lexeme ++ rest := split
  obtain ⟨starts, stops⟩ := Span.mk.inj span
  have none : bytes front = 0 := by
    have := congrArg Position.byte starts
    rw [Position.byte_after_start] at this
    exact this.symm
  obtain rfl := bytes_eq_zero none
  have none' : bytes rest = 0 := by
    have := congrArg Position.byte stops
    simp only [Position.byte_after_start, bytes_append] at this
    omega
  obtain rfl := bytes_eq_zero none'
  simpa using read

/-- A lexeme takes as much of the source as any token could. -/
theorem munches_of_reads {lexeme rest : List Char} {t : Token} (h : Reads lexeme t rest) :
    Munches lexeme t rest where
  alone := alone_of_reads h
  longest longer t' part farther alone := by
    obtain ⟨more, rfl⟩ := List.prefix_of_prefix_length_le (List.prefix_append lexeme rest) part
      (Nat.le_of_lt farther)
    have cut : Cut rest more := .of_isPrefix ((List.prefix_append_right_inj lexeme).1 part)
    have short := scan_of_reads (h.cut cut)
    have long := scan_of_reads (reads_of_alone alone)
    rw [List.append_nil, short] at long
    have same : lexeme.length = (lexeme ++ more).length := congrArg Scanned.width long
    omega

/-- The tokens of a source tile it: they are in order and disjoint with only separators around them,
the end token is the last, and each other one has the span of the longest lexeme there. -/
structure Tiling (source : List Char) (tokens : List SpannedToken) : Prop where
  tiled : Tiled Munches .start source tokens
  disjoint : tokens.Pairwise fun t t' => t.span.stop.byte ≤ t'.span.start.byte
  ends : ∃ front, tokens = front ++ [⟨.endOfInput, .point (.after .start source)⟩] ∧
    ∀ t ∈ front, t.token ≠ .endOfInput
  munched : ∀ t ∈ tokens, t.token ≠ .endOfInput → ∃ front lexeme rest,
    source = front ++ lexeme ++ rest ∧ lexeme ≠ [] ∧
    t.span = ⟨.after .start front, .after .start (front ++ lexeme)⟩ ∧
    t.span.extract? source = some lexeme ∧ Munches lexeme t.token rest

/-- Whenever a source has tokens, they tile it. -/
theorem tokenize_tiling {source : List Char} {tokens : List SpannedToken}
    (h : tokenize source = .ok tokens) : Tiling source tokens := by
  have tiled : Tiled Reads .start source tokens := tiled_of_tokensFrom h
  refine ⟨tiled.mono fun _ _ _ => munches_of_reads, tiled.pairwise, tiled.ends, ?_⟩
  intro t mem inside
  obtain ⟨front, lexeme, rest, split, span, read⟩ := tiled.read_of_mem mem inside
  refine ⟨front, lexeme, rest, split, read.ne_nil, span, ?_, munches_of_reads read⟩
  rw [span, split]
  exact Span.extract?_between front lexeme rest

/-- A number before a point that is no part of it, a sign of two characters, a quote in a comment. -/
theorem tokenize_tiling_access :
    ∃ tokens, tokenize "7.foo == 'a' ## it's".toList = .ok tokens ∧
      tokens.map SpannedToken.token =
        [.integer 7, .punctuation .dot, .identifier "foo", .sign .doubleEq, .string "a",
          .endOfInput] ∧
      Tiling "7.foo == 'a' ## it's".toList tokens := by
  have read : tokenize "7.foo == 'a' ## it's".toList = .ok
      [⟨.integer 7, ⟨⟨0, 1, 1⟩, ⟨1, 1, 2⟩⟩⟩, ⟨.punctuation .dot, ⟨⟨1, 1, 2⟩, ⟨2, 1, 3⟩⟩⟩,
        ⟨.identifier "foo", ⟨⟨2, 1, 3⟩, ⟨5, 1, 6⟩⟩⟩, ⟨.sign .doubleEq, ⟨⟨6, 1, 7⟩, ⟨8, 1, 9⟩⟩⟩,
        ⟨.string "a", ⟨⟨9, 1, 10⟩, ⟨12, 1, 13⟩⟩⟩, ⟨.endOfInput, ⟨⟨20, 1, 21⟩, ⟨20, 1, 21⟩⟩⟩] := by
    decide +kernel
  exact ⟨_, read, rfl, tokenize_tiling read⟩

end ExprScript
