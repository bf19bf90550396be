import ExprScript.Proofs.Parse.Success
import ExprScript.Proofs.Token.Places
import ExprScript.Proofs.Tree.Places

/-!
# What a parser passes in the source

Parsers go forward over tokens that follow each other in the source, and what they read stands there
in the order in which it is read. A parser that fails stops at a token or finds fault with what it
has passed.
-/

namespace ExprScript

variable {source : List Char} {tokens : List SpannedToken}

/-- The token that was found in the place of another one. -/
def SyntaxCause.found? : SyntaxCause → Option Token
  | expectedAfter _ _ found | expectedExpression found | expectedMember found | trailing found =>
    some found
  | _ => none

/-- A syntax error is at its place: its span is a slice of the source, that of the token found in
the place of another if there is one, and empty only if this is the end token. -/
structure SyntaxError.Placed (source : List Char) (tokens : List SpannedToken) (e : SyntaxError) :
    Prop where
  span : e.span.In source
  empty : e.span.start.byte = e.span.stop.byte ↔ e.cause.found? = some .endOfInput
  found : ∀ t, e.cause.found? = some t → ⟨t, e.span⟩ ∈ tokens

/-- An error that finds fault with more than one token has some text. -/
theorem SyntaxError.placed_of_filled {span : Span} {cause : SyntaxCause} (place : span.In source)
    (filled : span.start.byte < span.stop.byte) (none : cause.found? = none) :
    SyntaxError.Placed source tokens ⟨span, cause⟩ := by
  refine ⟨place, ⟨fun same => ?_, fun last => ?_⟩, fun t found => ?_⟩
  · dsimp only at same
    omega
  · cases none.symm.trans last
  · cases none.symm.trans found

namespace Parsed

variable {α β : Type} {m n : Nat} {blame : SyntaxError → Prop} {post : α → Stream → Prop}

/-- The outcome is a value and a rest as `post` says, or an error as `blame` says. -/
def Yields (blame : SyntaxError → Prop) (post : α → Stream → Prop) : Parsed α n → Prop
  | done value rest _ => post value rest
  | failed error _ => blame error

theorem Yields.andThen {p : Parsed α m}
    {f : (value : α) → (rest : Stream) → rest.size < m → Parsed β n} {post' : β → Stream → Prop}
    (first : p.Yields blame post)
    (next : ∀ value rest fewer, post value rest → (f value rest fewer).Yields blame post') :
    (p.andThen f).Yields blame post' := by
  cases p with
  | done value rest fewer => exact next value rest fewer first
  | failed error rest => exact first

theorem Yields.widen {p : Parsed α m} (h : p.Yields blame post) (more : m ≤ n) :
    (p.widen more).Yields blame post := by
  cases p <;> exact h

theorem Yields.of_gives {p : Parsed α n} {value : α} {rest : Stream} (h : p.Yields blame post)
    (gives : p.Gives value rest) : post value rest := by
  obtain ⟨_, rfl⟩ := gives
  exact h

theorem Yields.imp {p : Parsed α n} {post' : α → Stream → Prop} (h : p.Yields blame post)
    (weaker : ∀ value rest, post value rest → post' value rest) : p.Yields blame post' := by
  cases p with
  | done value rest fewer => exact weaker value rest h
  | failed error rest => exact h

/-- The outcome is a value and a rest as `post` says, or an error and a stop as `blame` says. -/
def Concludes (blame : SyntaxError → Stream → Prop) (post : α → Stream → Prop) : Parsed α n → Prop
  | done value rest _ => post value rest
  | failed error stop => blame error stop

theorem Concludes.andThen {p : Parsed α m}
    {f : (value : α) → (rest : Stream) → rest.size < m → Parsed β n}
    {blame blame' : SyntaxError → Stream → Prop} {post' : β → Stream → Prop}
    (first : p.Concludes blame post) (stops : ∀ error stop, blame error stop → blame' error stop)
    (next : ∀ value rest fewer, post value rest → (f value rest fewer).Concludes blame' post') :
    (p.andThen f).Concludes blame' post' := by
  cases p with
  | done value rest fewer => exact next value rest fewer first
  | failed error stop => exact stops error stop first

theorem Concludes.imp {p : Parsed α n} {blame blame' : SyntaxError → Stream → Prop}
    {post' : α → Stream → Prop} (h : p.Concludes blame post)
    (stops : ∀ error stop, blame error stop → blame' error stop)
    (weaker : ∀ value rest, post value rest → post' value rest) : p.Concludes blame' post' := by
  cases p with
  | done value rest fewer => exact weaker value rest h
  | failed error stop => exact stops error stop h

theorem Concludes.widen {p : Parsed α m} {blame : SyntaxError → Stream → Prop}
    (h : p.Concludes blame post) (more : m ≤ n) : (p.widen more).Concludes blame post := by
  cases p <;> exact h

end Parsed

theorem parse_eq_error_iff {mode : Mode} {e : SyntaxError} :
    parse tokens mode = .error e ↔ ∃ stop, (Stream.ofTokens tokens).unit mode = .failed e stop := by
  unfold parse
  cases (Stream.ofTokens tokens).unit mode <;> simp

/-- An error can be told without the tree. -/
theorem parse_eq_error_of_map {mode : Mode} {e : SyntaxError}
    (h : (parse tokens mode).map (fun _ => ()) = .error e) : parse tokens mode = .error e := by
  cases parsed : parse tokens mode <;> rw [parsed] at h <;> cases h
  rfl

namespace Stream

open Parsed

variable {s m r : Stream}

/-! ### Streams of tokens that follow each other -/

/-- The tokens ahead stand in the source behind the last one taken, one after the other, and the end
token is among them. -/
structure Laid (source : List Char) (tokens : List SpannedToken) (s : Stream) : Prop where
  among : s.rest ⊆ tokens
  placed : ∀ t ∈ s.rest, t.Placed source
  ordered : s.rest.Pairwise fun t t' => t.span.stop.byte ≤ t'.span.start.byte
  ended : ∃ t ∈ s.rest, t.token = .endOfInput
  behind : ∀ t ∈ s.rest, s.last.stop.byte ≤ t.span.start.byte

namespace Laid

variable (h : s.Laid source tokens)

include h

theorem current_mem : s.current ∈ s.rest := by
  obtain ⟨rest, last⟩ := s
  obtain ⟨t, listed, -⟩ := h.ended
  cases rest with
  | nil => cases listed
  | cons first more => exact List.mem_cons_self

theorem current : s.current.Placed source := h.placed _ h.current_mem

theorem behind_le : s.last.stop.byte ≤ s.current.span.start.byte := h.behind _ h.current_mem

/-- The token ahead has some text unless it is the end token. -/
theorem filled (inside : s.current.token ≠ .endOfInput) :
    s.current.span.start.byte < s.current.span.stop.byte := by
  have ordered := h.current.span.start_le_stop
  have apart := mt h.current.empty.1 inside
  omega

theorem next (inside : s.current.token ≠ .endOfInput) : s.next.Laid source tokens := by
  obtain ⟨rest, last⟩ := s
  obtain ⟨among, placed, ordered, ended, -⟩ := h
  cases rest with
  | nil => simp at ended
  | cons first more =>
    obtain ⟨t, listed, is⟩ := ended
    obtain ⟨follows, ordered⟩ := List.pairwise_cons.1 ordered
    refine ⟨(List.cons_subset.1 among).2, (List.forall_mem_cons.1 placed).2, ordered, ?_, follows⟩
    rcases List.mem_cons.1 listed with rfl | listed
    · exact absurd is inside
    · exact ⟨t, listed, is⟩

/-- Stopping at the token ahead is blamed on it. -/
theorem fail {α : Type} {bound : Nat} {cause : SyntaxCause} {post : α → Stream → Prop}
    (found : cause.found? = some s.current.token) :
    (s.fail cause : Parsed α bound).Yields (SyntaxError.Placed source tokens) post := by
  refine ⟨h.current.span, ?_, fun t same => ?_⟩
  · rw [h.current.empty, found, Option.some.injEq]
  · obtain rfl := Option.some.inj (found.symm.trans same)
    exact h.among h.current_mem

end Laid

/-- From one stream tokens were taken up to another. -/
structure Reached (source : List Char) (tokens : List SpannedToken) (s r : Stream) : Prop where
  laid : r.Laid source tokens
  last : r.last.In source
  filled : r.last.start.byte < r.last.stop.byte
  starts : s.current.span.start.byte ≤ r.last.start.byte
  stops : s.current.span.stop.byte ≤ r.last.stop.byte

theorem Laid.reached (h : s.Laid source tokens) (inside : s.current.token ≠ .endOfInput) :
    Reached source tokens s s.next :=
  ⟨h.next inside, h.current.span, h.filled inside, Nat.le_refl _, Nat.le_refl _⟩

theorem Laid.reached_mark (h : s.Laid source tokens) {mark : Punctuation}
    (is : s.current.token = .punctuation mark) : Reached source tokens s s.next :=
  h.reached (by simp [is])

theorem Reached.trans (h : Reached source tokens s m) (h' : Reached source tokens m r) :
    Reached source tokens s r := by
  have before := h.laid.behind_le
  have filled := h.filled
  have filled' := h'.filled
  have starts := h.starts
  have starts' := h'.starts
  have stops := h.stops
  exact ⟨h'.laid, h'.last, filled', by omega, by omega⟩

theorem Reached.ahead_lt (h : Reached source tokens s r) :
    s.current.span.start.byte < r.last.stop.byte := by
  have filled := h.filled
  have starts := h.starts
  omega

/-- What covers a span and the last token taken reaches up to the end of this token. -/
theorem Reached.cover (h : Reached source tokens s r) {a : Span} (place : a.In source)
    (starts : a.start.byte ≤ s.current.span.start.byte) (stops : a.stop.byte ≤ r.last.stop.byte) :
    a.extend r.last = ⟨a.start, r.last.stop⟩ ∧ Span.In source ⟨a.start, r.last.stop⟩ ∧
      a.start.byte < r.last.stop.byte := by
  have less : a.start.byte < r.last.stop.byte := by
    have ahead := h.ahead_lt
    omega
  exact ⟨place.extend_eq h.last (Nat.le_trans starts h.starts) stops,
    .of_ends place.start h.last.stop (Nat.le_of_lt less), less⟩

/-- From one stream tokens were taken up to another, and spans stand there one after the other. -/
structure Passes (source : List Char) (tokens : List SpannedToken) (s : Stream) (spans : List Span)
    (r : Stream) : Prop where
  reached : Reached source tokens s r
  row : Span.Row s.current.span.start.byte r.last.stop.byte spans

namespace Passes

variable {spans spans' : List Span} {lo hi : Nat}

theorem mark (h : Reached source tokens s r) : Passes source tokens s [] r := ⟨h, .nil⟩

theorem token (h : s.Laid source tokens) (inside : s.current.token ≠ .endOfInput) :
    Passes source tokens s [s.current.span] s.next :=
  ⟨h.reached inside, .single (Nat.le_refl _) (Nat.le_refl _)⟩

/-- Spans that stand before the first token taken, and those that are passed then. -/
theorem behind (h : Passes source tokens s spans' r) (front : Span.Row lo hi spans)
    (ordered : lo ≤ hi) (before : hi ≤ s.current.span.start.byte) :
    Span.Row lo r.last.stop.byte (spans ++ spans') :=
  (front.mono (Nat.le_refl _) before).append h.row (Nat.le_trans ordered before)
    (Nat.le_of_lt h.reached.ahead_lt)

theorem append (h : Passes source tokens s spans m) (h' : Passes source tokens m spans' r) :
    Passes source tokens s (spans ++ spans') r :=
  ⟨h.reached.trans h'.reached,
    h'.behind h.row (Nat.le_of_lt h.reached.ahead_lt) h.reached.laid.behind_le⟩

/-- What covers the token ahead and the last one taken is a slice that has all that is passed. -/
theorem headed (h : s.Laid source tokens) (passes : Passes source tokens s spans r) {a : Span}
    (covers : a = s.current.span.extend r.last) :
    a.In source ∧ a.start.byte < a.stop.byte ∧ Span.Row a.start.byte a.stop.byte spans ∧
      Passes source tokens s [a] r := by
  obtain ⟨same, covered, filled⟩ :=
    passes.reached.cover h.current.span (Nat.le_refl _) passes.reached.stops
  obtain rfl : a = ⟨s.current.span.start, r.last.stop⟩ := covers.trans same
  exact ⟨covered, filled, passes.row, passes.reached, .single (Nat.le_refl _) (Nat.le_refl _)⟩

end Passes

/-! ### Single tokens -/

/-- A mark that has to be there is one with some text. -/
theorem expect_places (h : s.Laid source tokens) (mark : Punctuation) (after : Construct) :
    (s.expect mark after).Yields (SyntaxError.Placed source tokens) fun _ r =>
      s.current.span.start.byte < s.current.span.stop.byte ∧ Passes source tokens s [] r := by
  unfold expect
  split
  · rename_i is
    exact ⟨h.filled (by simp [is]), .mark (h.reached_mark is)⟩
  · exact h.fail rfl

theorem close_places (h : s.Laid source tokens) (opening : Punctuation) (after : Construct)
    {opened : Span} (place : opened.In source) (filled : opened.start.byte < opened.stop.byte) :
    (s.close opening after opened).Yields (SyntaxError.Placed source tokens)
      fun _ r => Passes source tokens s [] r := by
  unfold close
  split
  · exact SyntaxError.placed_of_filled place filled rfl
  · exact (expect_places h _ after).imp fun _ _ taken => taken.2

theorem memberName_places (h : s.Laid source tokens) :
    s.memberName.Yields (SyntaxError.Placed source tokens) fun name r =>
      name.Placed source ∧ Passes source tokens s [name.span] r := by
  unfold memberName
  split
  · rename_i name is
    have text := h.current.name name (by simp [is, Token.memberText?])
    exact ⟨⟨h.current.span, text⟩, .token h (by simp [is])⟩
  · rename_i word is
    have text := h.current.name word.text (by simp [is, Token.memberText?])
    exact ⟨⟨h.current.span, text⟩, .token h (by simp [is])⟩
  · exact h.fail rfl

/-- A token that is an operand of its own is at the place of the token. -/
theorem literal?_places (h : s.Laid source tokens) {e : Expr Span}
    (leaf : literal? s.current = some e) :
    e.Situated source ∧ Passes source tokens s [e.span] s.next := by
  have inside := ne_end_of_literal? leaf
  have filled := h.filled inside
  have passes := Passes.token h inside
  rcases literal?_eq_some_iff.1 leaf with ⟨value, -, rfl⟩ | ⟨text, token, rfl⟩
  · have placed : Expr.Placed source (.literal s.current.span value) :=
      ⟨h.current.span, filled, List.forall_mem_nil _, .nil⟩
    exact ⟨.of_children placed (List.forall_mem_nil _), passes⟩
  · have name := h.current.name text (by simp [token, Token.memberText?])
    have placed : Expr.Placed source (.var ⟨text, s.current.span⟩) :=
      ⟨h.current.span, filled, List.forall_mem_singleton.2 ⟨h.current.span, name⟩, passes.row⟩
    exact ⟨.of_children placed (List.forall_mem_nil _), passes⟩

end Stream

end ExprScript
