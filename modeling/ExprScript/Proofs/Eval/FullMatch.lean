import ExprScript.Eval.Arithmetic
import ExprScript.Proofs.Pattern.Choices
import ExprScript.Proofs.Pattern.Matching

/-!
# Matching a text as a whole

A pattern is anchored by its text alone, which is put between `^(?:` and `)$`. Where it is a pattern by
itself, the anchored one matches just the texts that it matches as a whole, but for two cases: a
comment at its end takes in what is put behind it, and what is put around it may be too much for the
limits. Where it is none, the anchored one is none either, unless a parenthesis in it closes the group
that was opened in front of it.
-/

namespace ExprScript.Pattern

open Reading

/-- Where the reading of a text starts. -/
def Reader.start (text : List Char) : Reader := ⟨text, .initial, []⟩

/-- The part that a text writes as a whole, within the limits or not. -/
def piece? (text : List Char) : Option Piece :=
  ((choices (text.length + 1) [] []).run (.start text)).bind fun (piece, r) =>
    if r.rest.isEmpty then some piece else none

/-- The text follows the syntax of patterns. -/
def IsWellFormed (text : List Char) : Prop := (piece? text).isSome = true

instance (text : List Char) : Decidable (IsWellFormed text) := inferInstanceAs (Decidable (_ = _))

/-- A parenthesis in the text closes a group that is not opened in it: a pattern ends in front of the
parenthesis, which is not in a comment. -/
def ClosesGroup (text : List Char) : Prop :=
  ∃ front behind, text = front ++ ')' :: behind ∧
    IsWellFormed front ∧ ¬ IsWellFormed (front ++ [')'])

/-- What stands behind the pattern on the same line is no part of it. -/
def EndsInComment (text : List Char) : Prop :=
  IsWellFormed text ∧ IsWellFormed (text ++ [')'])

instance (text : List Char) : Decidable (EndsInComment text) := inferInstanceAs (Decidable (_ ∧ _))

/-- A part between the conditions for both ends of a text. -/
def Piece.anchored (piece : Piece) : Piece :=
  .concat [.piece (.look .textStart), .piece (piece.group false), .piece (.look .textStop)]

/-- The pattern stays within the limits when it is anchored. -/
def HasRoom (text : List Char) : Prop := (piece? text).any (·.anchored.isWithinLimits) = true

instance (text : List Char) : Decidable (HasRoom text) := inferInstanceAs (Decidable (_ = _))

section

variable {text behind : List Char} {piece : Piece} {r : Reader}

theorem piece?_eq_some : piece? text = some piece ↔
    ∃ r, choices (text.length + 1) [] [] (.start text) = some (piece, r) ∧ r.rest = [] := by
  rw [piece?, Option.bind_eq_some_iff]
  constructor
  · rintro ⟨⟨piece', r⟩, read, found⟩
    obtain ⟨ended, same⟩ := Option.ite_none_right_eq_some.1 found
    cases same
    exact ⟨r, read, List.isEmpty_iff.1 ended⟩
  · rintro ⟨r, read, ended⟩
    exact ⟨(piece, r), read, if_pos (List.isEmpty_iff.2 ended)⟩

/-- What is read of a text is read as a whole, if nothing is left. -/
theorem isWellFormed_iff (read : choices (text.length + 1) [] [] (.start text) = some (piece, r)) :
    IsWellFormed text ↔ r.rest = [] := by
  rw [IsWellFormed, Option.isSome_iff_exists]
  constructor
  · rintro ⟨piece', found⟩
    obtain ⟨r', read', ended⟩ := piece?_eq_some.1 found
    rw [read] at read'
    cases read'
    exact ended
  · exact fun ended => ⟨piece, piece?_eq_some.2 ⟨r, read, ended⟩⟩

/-- The end of the pattern, behind a part within the limits. -/
def finish (piece : Piece) : Reading Piece := do
  require ((← rest).isEmpty && piece.isWithinLimits)
  return piece

theorem whole_eq (text : List Char) :
    whole (.start text) = (choices (text.length + 1) [] [] >>= finish) (.start text) := rfl

theorem finish_eq : finish piece r =
    if r.rest.isEmpty && piece.isWithinLimits then some (piece, r) else none := by
  change (require (r.rest.isEmpty && piece.isWithinLimits) >>= fun _ => pure piece) r = _
  cases r.rest.isEmpty && piece.isWithinLimits <;> rfl

theorem parse?_eq (text : List Char) :
    parse? text = ((piece? text).filter (·.isWithinLimits)).map (·.pattern) := by
  change ((whole (.start text)).map (·.1)).map (·.pattern) = _
  congr 1
  rw [whole_eq]
  cases read : choices (text.length + 1) [] [] (.start text) with
  | none => rw [bind_of_none read, piece?, StateT.run, read]; rfl
  | some result =>
    obtain ⟨piece, r⟩ := result
    rw [bind_of_some read, finish_eq, piece?, StateT.run, read]
    by_cases ended : r.rest = [] <;> cases limits : piece.isWithinLimits <;>
      simp [ended, limits, Option.filter]

theorem isWellFormed_of_parse? {pattern : Pattern} (valid : parse? text = some pattern) :
    IsWellFormed text := by
  rw [parse?_eq] at valid
  cases found : piece? text with
  | none => simp [found] at valid
  | some piece => simp [IsWellFormed, found]

/-- How a text is read with and without a parenthesis behind it. -/
theorem parallel_whole (text : List Char) (fuel : List Char → Nat)
    (enough : ∀ tail, text.length + 1 + tail.length < fuel tail) :
    Parallel passed (choices (text.length + 1) [] []) (fun tail => choices (fuel tail) [] [])
      (.start text) :=
  (twin_choices _ fuel text (Nat.lt_succ_self _) enough [] []).parallel _ (List.suffix_refl _)

theorem closesGroup_iff : ClosesGroup text ↔
    ∃ piece r, choices (text.length + 1) [] [] (.start text) = some (piece, r) ∧
      r.rest.head? = some ')' := by
  have parallel (front : List Char) := parallel_whole front
    (fun tail => (front ++ ')' :: tail).length + 1) fun tail => by simp; omega
  constructor
  · rintro ⟨front, behind, rfl, whole, cut⟩
    obtain ⟨piece, found⟩ := Option.isSome_iff_exists.1 whole
    obtain ⟨r, read, ended⟩ := piece?_eq_some.1 found
    cases parallel front with
    | along piece' r' alone suffix closed =>
      rw [read] at alone
      cases alone
      exact ⟨piece, _, closed behind, by simp [ended]⟩
    | past closed comment =>
      refine absurd ?_ cut
      obtain ⟨-, quiet⟩ := comment piece r read
      exact (isWellFormed_iff (quiet [] (by simp))).2 ended
  · rintro ⟨piece, r, read, close⟩
    obtain ⟨behind, ahead⟩ := List.head?_eq_some_iff.1 close
    obtain ⟨front, split⟩ : r.rest <:+ text := shrinks_choices _ _ _ _ _ _ read
    rw [ahead] at split
    subst split
    cases parallel front with
    | along piece' r' alone suffix closed =>
      have same := read.symm.trans (closed behind)
      cases same
      have ended : r'.rest = [] := by simpa using ahead
      refine ⟨front, behind, rfl, (isWellFormed_iff alone).2 ended, ?_⟩
      exact (isWellFormed_iff (closed [])).not.2 (by simp)
    | past closed comment =>
      have shorter := (closed behind piece r read).length_le
      rw [ahead, List.length_cons] at shorter
      omega

theorem not_closesGroup (whole : IsWellFormed text) : ¬ ClosesGroup text := by
  intro closes
  obtain ⟨piece, r, read, close⟩ := closesGroup_iff.1 closes
  rw [(isWellFormed_iff read).1 whole] at close
  cases close

/-! ### The anchored pattern -/

/-- What is read behind the text of the pattern. -/
def closing (fuel : Nat) (inner : Piece) : Reading Piece := do
  expect ')'
  setFlags .initial
  choices fuel [] [.piece (inner.group false), .piece (.look .textStart)]

theorem choices_anchored (text : List Char) :
    choices ((anchored text).length + 1) [] [] (.start (anchored text)) =
      (choices (text.length + 5) [] [] >>= closing (text.length + 5))
        ((Reader.start text).extend [')', '$']) := by
  have length : (anchored text).length = text.length + 6 := by
    simp [anchored]
  have split : anchored text = '^' :: '(' :: '?' :: ':' :: (text ++ [')', '$']) := by
    simp [anchored]
  rw [length, split]
  rfl

theorem closing_eq (fuel : Nat) (ended : r.rest = []) :
    closing (fuel + 2) piece (r.extend [')', '$']) =
      some (piece.anchored, ⟨[], .initial, r.names⟩) := by
  have same : r.extend [')', '$'] = ⟨[')', '$'], r.flags, r.names⟩ := by
    rw [Reader.extend, ended, List.nil_append]
  rw [same]
  rfl

/-- The anchored text is read as the text is, and is cut off when the text ends in a comment. -/
theorem piece?_anchored (inside : ¬ ClosesGroup text) : piece? (anchored text) =
    if EndsInComment text then none else (piece? text).map (·.anchored) := by
  -- The same fuel for one parenthesis behind the text and for the anchored text.
  have enough (tail : List Char) :
      text.length + 1 + tail.length < text.length + 2 + 3 * tail.length := by omega
  cases parallel_whole text _ enough with
  | along piece r alone suffix closed =>
    have ended : r.rest = [] := by
      rcases stops_choices _ _ _ _ _ _ alone with none | close
      · exact List.head?_eq_none_iff.1 none
      · exact absurd (closesGroup_iff.2 ⟨piece, r, alone, close⟩) inside
    have uncommented : ¬ EndsInComment text := fun comment => by
      have beyond : choices ((text ++ [')']).length + 1) [] [] (.start (text ++ [')'])) =
        some (piece, r.extend [')']) := by rw [List.length_append]; exact closed []
      have nothing := (isWellFormed_iff beyond).1 comment.2
      simp at nothing
    rw [if_neg uncommented, piece?_eq_some.2 ⟨r, alone, ended⟩, Option.map_some, piece?_eq_some]
    exact ⟨_, (choices_anchored text).trans ((bind_of_some (closed ['$'])).trans
      (closing_eq (text.length + 3) ended)), rfl⟩
  | past closed comment =>
    have fails : piece? (anchored text) = none := by
      refine Option.eq_none_iff_forall_ne_some.2 fun piece found => ?_
      obtain ⟨r, read, -⟩ := piece?_eq_some.1 found
      rw [choices_anchored] at read
      obtain ⟨inner, r', first, second⟩ := bind_eq_some.1 read
      have beyond : r'.rest <:+ ['$'] := closed ['$'] inner r' first
      obtain ⟨_, _, expected, -⟩ := bind_eq_some.1 second
      obtain ⟨tail, ahead, -⟩ := expect_eq_some.1 expected
      rw [ahead] at beyond
      exact absurd (beyond.subset (List.mem_cons_self ..)) (by decide)
    rw [fails]
    split
    · rfl
    · rename_i uncommented
      rw [eq_comm, Option.map_eq_none_iff, Option.eq_none_iff_forall_ne_some]
      intro piece found
      obtain ⟨r, read, ended⟩ := piece?_eq_some.1 found
      have beyond : choices ((text ++ [')']).length + 1) [] [] (.start (text ++ [')'])) =
          some (piece, r) := by
        rw [List.length_append]
        exact (comment piece r read).2 [] List.not_mem_nil
      exact uncommented ⟨(isWellFormed_iff read).2 ended, (isWellFormed_iff beyond).2 ended⟩

/-- The conditions for the ends are two more nodes, two levels further out. -/
theorem isWithinLimits_anchored (piece : Piece) : piece.anchored.isWithinLimits =
    (decide (piece.depth + 2 ≤ maxDepth) &&
      decide (piece.footprint + 2 * stateFootprint ≤ maxFootprint)) := by
  have depth : piece.anchored.depth = piece.depth + 2 := by
    simp [Piece.anchored, Piece.concat, Piece.append, Piece.nested, Piece.group, Piece.look]
  have footprint : piece.anchored.footprint = piece.footprint + 2 * stateFootprint := by
    simp [Piece.anchored, Piece.concat, Piece.append, Piece.nested, Piece.group, Piece.look]
    omega
  rw [Piece.isWithinLimits, depth, footprint]

theorem isWithinLimits_of_anchored (room : piece.anchored.isWithinLimits = true) :
    piece.isWithinLimits = true := by
  rw [isWithinLimits_anchored, Bool.and_eq_true, decide_eq_true_eq, decide_eq_true_eq] at room
  rw [Piece.isWithinLimits, Bool.and_eq_true, decide_eq_true_eq, decide_eq_true_eq]
  omega

theorem parse?_anchored (inside : ¬ ClosesGroup text) : parse? (anchored text) =
    if EndsInComment text ∨ ¬ HasRoom text then none
    else (parse? text).map fun pattern =>
      .seq (.seq (.look .textStart) pattern) (.look .textStop) := by
  rw [parse?_eq, piece?_anchored inside, parse?_eq]
  by_cases comment : EndsInComment text
  · rw [if_pos comment, if_pos (.inl comment)]
    rfl
  rw [if_neg comment]
  cases found : piece? text with
  | none => simp
  | some piece =>
    have room : HasRoom text ↔ piece.anchored.isWithinLimits = true := by
      rw [HasRoom, found, Option.any_some]
    by_cases fits : piece.anchored.isWithinLimits = true
    · rw [if_neg (by simp [comment, room, fits])]
      simp [Option.filter, fits, isWithinLimits_of_anchored fits]
      rfl
    · rw [if_pos (.inr (room.not.2 fits))]
      simp [Option.filter, fits]

/-- A text that follows the syntax of patterns but is past the limits is no pattern when anchored. -/
theorem parse?_anchored_of_none (inside : ¬ ClosesGroup text) (invalid : parse? text = none) :
    parse? (anchored text) = none := by
  rw [parse?_anchored inside, invalid, Option.map_none, ite_self]

end

end ExprScript.Pattern

namespace ExprScript

theorem matchValues_string (lhs : Value) (p : String) : matchValues lhs (.string p) =
    match Pattern.parse? (Pattern.anchored p.toList) with
    | some pattern => .ok (pattern.occursIn lhs.render.toList)
    | none => .error (.type .invalidPattern) := rfl

theorem matching_apply (strict : Bool) (lhs rhs : Value) :
    BinaryOp.matching.apply strict lhs rhs = (matchValues lhs rhs).map .boolean := rfl

theorem notMatching_apply (strict : Bool) (lhs rhs : Value) :
    BinaryOp.notMatching.apply strict lhs rhs =
      (matchValues lhs rhs).map fun result => .boolean (!result) := rfl

end ExprScript
