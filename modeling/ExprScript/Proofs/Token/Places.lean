import ExprScript.Proofs.Grammar.Basic
import ExprScript.Proofs.Source.Places
import ExprScript.Proofs.Token.Tiling

/-!
# Where tokens and their errors are

The span of a token is the slice of the source that it was read of: a name is spelled as it stands
there, and only the end token has an empty slice. What cannot be read starts at a place in the
source as well.
-/

namespace ExprScript

open Scan

variable {source : List Char} {tokens : List SpannedToken}

/-- The span of a token is its place in the source. -/
structure SpannedToken.Placed (source : List Char) (t : SpannedToken) : Prop where
  span : t.span.In source
  empty : t.span.start.byte = t.span.stop.byte ↔ t.token = .endOfInput
  name : ∀ text, t.token.memberText? = some text → t.span.extract? source = some text.toList

/-- A name is read of its own text. -/
theorem Scan.Reads.memberText {lexeme rest : List Char} {t : Token} {text : String}
    (h : Reads lexeme t rest) (name : t.memberText? = some text) : lexeme = text.toList := by
  cases h with
  | @word c parts rest start all ends =>
    rcases word_cases (String.ofList (c :: parts)) with ⟨-, same⟩ | ⟨k, same, spelled⟩ | ⟨s, same⟩
    · rw [same] at name
      obtain rfl := Option.some.inj name
      exact String.toList_ofList.symm
    · rw [same] at name
      obtain rfl := Option.some.inj name
      rw [spelled, String.toList_ofList]
    · rw [same] at name
      cases name
  | _ => cases name

theorem placed_of_mem_tiled (h : Tiled Reads .start source tokens) {t : SpannedToken}
    (mem : t ∈ tokens) : t.Placed source := by
  by_cases inside : t.token = .endOfInput
  · obtain ⟨front, rfl, others⟩ := h.ends
    obtain rfl : t = ⟨.endOfInput, .point (.after .start source)⟩ := by
      rcases List.mem_append.1 mem with among | last
      · exact absurd inside (others t among)
      · exact List.mem_singleton.1 last
    have place := Position.in_after_start (List.prefix_refl source)
    exact ⟨.of_ends place place (Nat.le_refl _), by simp [Span.point], by rintro _ ⟨⟩⟩
  · obtain ⟨front, lexeme, rest, rfl, span, read⟩ := h.read_of_mem mem inside
    refine ⟨?_, ⟨fun same => ?_, fun last => absurd last inside⟩, fun text name => ?_⟩
    · rw [span]
      exact Span.in_between front lexeme rest
    · rw [span] at same
      simp only [Position.byte_after_start, bytes_append] at same
      exact absurd (bytes_eq_zero (by omega)) read.ne_nil
    · rw [span, ← read.memberText name]
      exact Span.extract?_between front lexeme rest

/-! ### Errors of reading -/

/-- What cannot be read starts behind a first part of the text. -/
theorem position_of_nextToken {c behind : Cursor} {e : LexError}
    (h : c.nextToken = (.error e, behind)) :
    ∃ gap text, c.rest = gap ++ text ∧ e.position = c.position.after gap := by
  obtain ⟨closed, gap, text, split, separator, ends, stops, found⟩ := c.separator_in_front
  obtain ⟨p, whole⟩ := c
  obtain rfl : whole = gap ++ text := split
  rw [Cursor.nextToken_separator p separator ends] at h
  refine ⟨gap, text, rfl, ?_⟩
  cases outcome : (scan text).outcome with
  | error cause =>
    have failed := Cursor.nextToken_of_fault (p.after gap) stops outcome
    rw [h] at failed
    obtain rfl := Except.error.inj failed
    rfl
  | ok read =>
    obtain ⟨token, rfl⟩ := Option.ne_none_iff_exists'.1 fun none => found (none ▸ outcome)
    have read := Cursor.nextToken_eq_scan ⟨p.after gap, text⟩
    rw [Cursor.skipBlanks_of_stops _ stops] at read
    simp [outcome, h] at read

theorem position_of_tokensFrom {c : Cursor} {e : LexError} (h : tokensFrom c = .error e) :
    ∃ gap text, c.rest = gap ++ text ∧ e.position = c.position.after gap := by
  induction c using tokensFrom.induct with
  | case1 c e' behind read =>
    have same : tokensFrom c = .error e' := by
      rw [tokensFrom]
      split <;> simp_all
    obtain rfl : e' = e := Except.error.inj (same.symm.trans h)
    exact position_of_nextToken read
  | case2 c t behind read inside ih =>
    rw [tokensFrom_of_token read inside] at h
    cases found : tokensFrom behind with
    | ok later => simp [found, Except.map] at h
    | error e' =>
      obtain rfl : e' = e := by simpa [found, Except.map] using h
      obtain ⟨gap, text, split, place⟩ := ih found
      rcases nextToken_cases read with
        ⟨-, rfl⟩ | ⟨gap', lexeme, rest, token, split', -, -, rfl, rfl⟩
      · exact absurd rfl inside
      · refine ⟨gap' ++ lexeme ++ gap, text, ?_, ?_⟩
        · rw [split', show rest = gap ++ text from split]
          simp
        · rw [place]
          exact (Position.after_append ..).symm
  | case3 c t behind read last =>
    obtain ⟨token, span⟩ := t
    obtain rfl : token = .endOfInput := Decidable.not_not.1 last
    rw [tokensFrom_of_end read] at h
    cases h

/-- A source without tokens has the error at one of its places. -/
theorem in_of_tokenize_error {e : LexError} (h : tokenize source = .error e) :
    e.position.In source := by
  obtain ⟨gap, text, split, place⟩ := position_of_tokensFrom h
  rw [place]
  exact Position.in_after_start ⟨text, split.symm⟩

end ExprScript
