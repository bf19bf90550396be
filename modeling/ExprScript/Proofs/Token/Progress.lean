import Mathlib.Logic.Function.Iterate
import ExprScript.Proofs.Source.Order
import ExprScript.Proofs.Token.Tiling

/-!
# Reading on to the end

A source is read call by call, also behind what is no token. Every call returns: it passes over
white space and comments, which get fewer, and then gives a token or an error. It starts where the
call before has stopped or behind, and takes something unless it gives the end token, so the end of
the source is reached, and from then on every call finds it again.
-/

namespace ExprScript

open Scan

/-- Where the token or the error of a call starts. -/
def readStart : Except LexError SpannedToken → Position
  | .ok t => t.span.start
  | .error e => e.position

/-- A call that gives the end token. -/
def IsEnd (read : Except LexError SpannedToken) : Prop :=
  ∃ span, read = .ok ⟨.endOfInput, span⟩

namespace Cursor

/-! ### One call -/

/-- One round of a call: white space is passed, and what is behind it is scanned. A comment gives
neither a token nor an error. -/
def round (c : Cursor) : Option (Except LexError SpannedToken) × Cursor :=
  let before := c.skipBlanks
  let scanned := scan before.rest
  let behind := before.advance scanned.width
  match scanned.outcome with
  | .ok (some t) => (some (.ok ⟨t, ⟨before.position, behind.position⟩⟩), behind)
  | .error cause => (some (.error ⟨before.position, cause⟩), behind)
  | .ok none => (none, behind)

/-- A call that is cut off when it has taken a number of rounds without a token or an error. -/
def nextTokenWithin? : Nat → Cursor → Option (Except LexError SpannedToken × Cursor)
  | 0, _ => none
  | rounds + 1, c =>
    match c.round with
    | (some read, behind) => some (read, behind)
    | (none, behind) => nextTokenWithin? rounds behind

/-- A call is not cut off when it may take more rounds than there are characters ahead. -/
theorem nextTokenWithin?_eq {rounds : Nat} (c : Cursor) (enough : c.rest.length < rounds) :
    nextTokenWithin? rounds c = some c.nextToken := by
  induction rounds generalizing c with
  | zero => omega
  | succ rounds ih =>
    have shorter := c.length_behind_lt
    rw [nextToken_eq_scan, nextTokenWithin?, round]
    cases outcome : (scan c.skipBlanks.rest).outcome with
    | error cause => rfl
    | ok read =>
      cases read with
      | some t => rfl
      | none =>
        have fewer := shorter (by simp [outcome])
        exact ih _ (by omega)

/-- A cursor stands behind a text that is ahead of another one. -/
structure Onward (c : Cursor) (taken : List Char) (d : Cursor) : Prop where
  rest : c.rest = taken ++ d.rest
  position : d.position = c.position.after taken

namespace Onward

variable {c d e : Cursor} {taken taken' : List Char}

theorem advance (c : Cursor) (count : Nat) : c.Onward (c.rest.take count) (c.advance count) :=
  ⟨(List.take_append_drop count c.rest).symm, rfl⟩

theorem trans (h : c.Onward taken d) (h' : d.Onward taken' e) : c.Onward (taken ++ taken') e :=
  ⟨by rw [h.rest, h'.rest, List.append_assoc],
    by rw [h'.position, h.position, Position.after_append]⟩

/-- Both stand before the same end. -/
theorem after_rest (h : c.Onward taken d) :
    d.position.after d.rest = c.position.after c.rest := by
  rw [h.rest, h.position, Position.after_append]

theorem length_rest (h : c.Onward taken d) : c.rest.length = taken.length + d.rest.length := by
  rw [h.rest, List.length_append]

theorem compare_lt (h : c.Onward taken d) (nonempty : taken ≠ []) :
    compare c.position d.position = .lt := by
  have filled : bytes taken ≠ 0 := mt bytes_eq_zero nonempty
  apply Position.compare_of_byte_lt
  rw [h.position, Position.byte_after]
  omega

theorem compare_isLE (h : c.Onward taken d) : (compare c.position d.position).isLE = true := by
  by_cases nonempty : taken = []
  · rw [h.position, nonempty, Position.after_nil, Position.compare_eq]
    simp
  · rw [h.compare_lt nonempty]
    rfl

end Onward

/-- A call passes over what is in front of a token or an error, and takes some text for it unless
this is the end token. -/
theorem nextToken_onward (c : Cursor) : ∃ gap before taken, c.Onward gap before ∧
    before.Onward taken c.nextToken.2 ∧ readStart c.nextToken.1 = before.position ∧
    (taken = [] → IsEnd c.nextToken.1) := by
  have blanks (c : Cursor) : c.Onward (c.rest.take (c.rest.takeWhile Text.isBlank).length)
      c.skipBlanks := .advance c _
  have taken {c : Cursor} (inside : (scan c.rest).outcome ≠ .ok (some .endOfInput)) :
      c.rest.take (scan c.rest).width ≠ [] := by
    obtain ⟨width, nonempty⟩ := scan_width_pos_of_ne_end inside
    rw [ne_eq, List.take_eq_nil_iff, not_or]
    exact ⟨by omega, nonempty⟩
  induction c using nextToken.induct with
  | case1 c before scanned token outcome =>
    have scans : (scan c.skipBlanks.rest).outcome = .ok (some token) := outcome
    rw [nextToken_eq_scan, scans]
    refine ⟨_, _, _, blanks c, .advance _ _, rfl, fun none => ?_⟩
    have last := mt taken (not_not_intro none)
    rw [scans] at last
    simp only [ne_eq, Decidable.not_not, Except.ok.injEq, Option.some.injEq] at last
    exact ⟨_, by rw [last]⟩
  | case2 c before scanned cause outcome =>
    have scans : (scan c.skipBlanks.rest).outcome = .error cause := outcome
    rw [nextToken_eq_scan, scans]
    exact ⟨_, _, _, blanks c, .advance _ _, rfl, fun none => absurd none (taken (by simp [scans]))⟩
  | case3 c before scanned behind outcome ih =>
    have scans : (scan c.skipBlanks.rest).outcome = .ok none := outcome
    rw [nextToken_eq_scan, scans]
    obtain ⟨gap, before', taken', passed, read⟩ := ih
    exact ⟨_, before', taken', ((blanks c).trans (.advance _ _)).trans passed, read⟩

/-- A call that does not give the end token takes some text. -/
theorem nextToken_moves {c : Cursor} (inside : ¬ IsEnd c.nextToken.1) :
    ∃ taken, taken ≠ [] ∧ c.Onward taken c.nextToken.2 := by
  obtain ⟨gap, before, taken, passed, read, -, ends⟩ := c.nextToken_onward
  exact ⟨_, List.append_ne_nil_of_right_ne_nil gap (mt ends inside), passed.trans read⟩

/-- The end token is empty and stands behind all that is ahead. -/
theorem nextToken_of_isEnd {c : Cursor} (h : IsEnd c.nextToken.1) :
    c.nextToken = (.ok ⟨.endOfInput, .point (c.position.after c.rest)⟩,
      ⟨c.position.after c.rest, []⟩) := by
  obtain ⟨span, last⟩ := h
  have read : c.nextToken = (.ok ⟨.endOfInput, span⟩, c.nextToken.2) := by rw [← last]
  rcases nextToken_cases read with ⟨separator, -⟩ | ⟨_, _, _, _, _, _, reads, same, -⟩
  · exact nextToken_of_last c.position separator
  · exact absurd (congrArg SpannedToken.token same).symm reads.ne_end

/-! ### Calls behind each other -/

/-- The cursor behind a number of calls, those that give an error included. -/
def afterCalls (c : Cursor) (count : Nat) : Cursor := (fun c => c.nextToken.2)^[count] c

/-- What the call behind a number of calls gives. -/
def call (c : Cursor) (count : Nat) : Except LexError SpannedToken :=
  (c.afterCalls count).nextToken.1

theorem afterCalls_succ (c : Cursor) (count : Nat) :
    c.afterCalls (count + 1) = (c.afterCalls count).nextToken.2 :=
  Function.iterate_succ_apply' _ _ _

theorem call_succ (c : Cursor) (count : Nat) : c.call (count + 1) = c.nextToken.2.call count := rfl

theorem afterCalls_onward (c : Cursor) (count : Nat) :
    ∃ taken, c.Onward taken (c.afterCalls count) := by
  induction count with
  | zero => exact ⟨[], rfl, rfl⟩
  | succ count ih =>
    obtain ⟨taken, onward⟩ := ih
    obtain ⟨gap, before, taken', passed, read, -⟩ := (c.afterCalls count).nextToken_onward
    rw [afterCalls_succ]
    exact ⟨_, onward.trans (passed.trans read)⟩

/-- At the end of the source every call gives the end token. -/
theorem call_at_end (p : Position) (count : Nat) :
    call ⟨p, []⟩ count = .ok ⟨.endOfInput, .point p⟩ := by
  have read : nextToken ⟨p, []⟩ = (.ok ⟨.endOfInput, .point p⟩, ⟨p, []⟩) :=
    nextToken_of_last p .nil
  have still : afterCalls ⟨p, []⟩ count = ⟨p, []⟩ :=
    Function.iterate_fixed (congrArg Prod.snd read) count
  rw [call, still, read]

/-- There are no more calls than characters before the end token is given, and it is given by all
later calls. -/
theorem exists_calls (c : Cursor) : ∃ count ≤ c.rest.length,
    (∀ k < count, ¬ IsEnd (c.call k)) ∧
    ∀ k, count ≤ k → c.call k = .ok ⟨.endOfInput, .point (c.position.after c.rest)⟩ := by
  by_cases last : IsEnd c.nextToken.1
  · have read := nextToken_of_isEnd last
    refine ⟨0, Nat.zero_le _, by simp, fun k _ => ?_⟩
    cases k with
    | zero => exact congrArg Prod.fst read
    | succ k => rw [call_succ, read, call_at_end]
  · obtain ⟨taken, nonempty, onward⟩ := nextToken_moves last
    have filled := List.length_pos_iff.2 nonempty
    have whole := onward.length_rest
    have shorter : c.nextToken.2.rest.length < c.rest.length := by omega
    obtain ⟨count, most, before, later⟩ := exists_calls c.nextToken.2
    refine ⟨count + 1, by omega, fun k less => ?_, fun k more => ?_⟩
    · cases k with
      | zero => exact last
      | succ k =>
        rw [call_succ]
        exact before k (by omega)
    · cases k with
      | zero => omega
      | succ k => rw [call_succ, later k (by omega), onward.after_rest]
termination_by c.rest.length

end Cursor

/-- Calls one behind the other, errors included, get from a cursor at the start of a source to its
end and stay there. -/
structure Cursor.ReadsThrough (c : Cursor) (source : List Char) : Prop where
  /-- Every call returns, within as many rounds as there are characters and one more. -/
  returns : ∀ k, (c.afterCalls k).nextTokenWithin? (source.length + 1) =
    some (c.call k, c.afterCalls (k + 1))
  /-- What a call gives starts where the calls before have stopped, or behind. -/
  starts : ∀ k, (compare (c.afterCalls k).position (readStart (c.call k))).isLE = true
  /-- A call that does not give the end token moves the cursor forward. -/
  moves : ∀ k, ¬ IsEnd (c.call k) →
    compare (c.afterCalls k).position (c.afterCalls (k + 1)).position = .lt
  /-- The end token is given after at most as many calls as there are characters, and by all later
  ones: it is empty and stands at the end of the source. -/
  ends : ∃ count ≤ source.length, (∀ k < count, ¬ IsEnd (c.call k)) ∧
    ∀ k, count ≤ k → c.call k = .ok ⟨.endOfInput, .point (.after .start source)⟩

/-- Every source is read through. -/
theorem calls_read_through (source : List Char) : (Cursor.ofText source).ReadsThrough source := by
  refine ⟨fun k => ?_, fun k => ?_, fun k inside => ?_, (Cursor.ofText source).exists_calls⟩
  · obtain ⟨taken, onward⟩ := (Cursor.ofText source).afterCalls_onward k
    have whole : source.length = _ := onward.length_rest
    rw [Cursor.nextTokenWithin?_eq _ (by omega), Cursor.afterCalls_succ]
    rfl
  · obtain ⟨gap, before, taken, passed, -, start, -⟩ :=
      ((Cursor.ofText source).afterCalls k).nextToken_onward
    rw [Cursor.call, start]
    exact passed.compare_isLE
  · obtain ⟨taken, nonempty, onward⟩ := Cursor.nextToken_moves inside
    rw [Cursor.afterCalls_succ]
    exact onward.compare_lt nonempty

end ExprScript
