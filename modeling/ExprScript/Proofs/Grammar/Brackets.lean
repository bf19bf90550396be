import ExprScript.Parse.Stream
import ExprScript.Proofs.Grammar.Basic

/-!
# Brackets that close each other

In a balanced word every bracket that opens is closed by one of its kind behind it, with a balanced
word between the two. What stands behind a bracket closes it when it is a balanced word, the closing
bracket and anything more; a balanced word closes nothing in front of it.
-/

namespace ExprScript.Grammar

/-- The brackets that open. -/
def openings : List Punctuation := [.leftParen, .leftBracket, .leftBrace]

/-- The brackets that close. -/
def closings : List Punctuation := [.rightParen, .rightBracket, .rightBrace]

/-- A token that is no bracket. -/
def IsPlain (t : Token) : Prop := ∀ m ∈ openings ++ closings, t ≠ mark m

instance (t : Token) : Decidable (IsPlain t) := inferInstanceAs (Decidable (∀ m ∈ _, _))

theorem closing_mem_closings (m : Punctuation) : Stream.closing m ∈ closings := by
  cases m <;> decide

theorem not_mem_closings {m : Punctuation} (opens : m ∈ openings) : m ∉ closings := by
  cases m <;> revert opens <;> decide

/-- Words in which brackets are closed by brackets of their kind. -/
inductive Balanced : List Token → Prop where
  | nil : Balanced []
  | plain {t word} : IsPlain t → Balanced word → Balanced (t :: word)
  | nest {opening inside word} :
    opening ∈ openings → Balanced inside → Balanced word →
    Balanced (mark opening :: inside ++ mark (Stream.closing opening) :: word)

/-- A bracket is closed by the word behind it. -/
def ClosedBy (opening : Punctuation) (word : List Token) : Prop :=
  ∃ inside behind, word = inside ++ mark (Stream.closing opening) :: behind ∧ Balanced inside

variable {word word' front behind : List Token} {m : Punctuation} {t : Token}

theorem Balanced.append (h : Balanced word) (h' : Balanced word') : Balanced (word ++ word') := by
  induction h with
  | nil => exact h'
  | plain plain _ ih => exact .plain plain ih
  | nest opens inside _ _ ih => simpa using .nest opens inside ih

theorem Balanced.single (plain : IsPlain t) : Balanced [t] := .plain plain .nil

theorem ClosedBy.append (h : ClosedBy m word) (more : List Token) : ClosedBy m (word ++ more) := by
  obtain ⟨inside, behind, rfl, balanced⟩ := h
  exact ⟨inside, behind ++ more, by simp, balanced⟩

/-- Every bracket that opens in a balanced word is closed by what is behind it. -/
theorem Balanced.closedBy (h : Balanced word) (opens : m ∈ openings)
    (split : word = front ++ mark m :: behind) : ClosedBy m behind := by
  induction h generalizing front behind with
  | nil => simp at split
  | plain plain _ ih =>
    cases front with
    | nil =>
      obtain ⟨rfl, -⟩ := List.cons.inj split
      exact absurd rfl (plain m (List.mem_append_left _ opens))
    | cons _ front => exact ih (List.cons.inj split).2
  | @nest opening inside word opens' balanced _ ih ih' =>
    have other {o : Punctuation} : mark (Stream.closing o) ≠ mark m := by
      intro same
      cases same
      exact not_mem_closings opens (closing_mem_closings _)
    cases front with
    | nil =>
      obtain ⟨same, rfl⟩ := List.cons.inj split
      cases same
      exact ⟨inside, word, rfl, balanced⟩
    | cons _ front =>
      obtain ⟨-, split⟩ := List.cons.inj split
      -- the bracket stands behind the nested word or in it
      rcases List.append_eq_append_iff.1 split with ⟨between, rfl, later⟩ | ⟨between, rfl, same⟩
      · cases between with
        | nil => exact absurd (List.cons.inj later).1 other
        | cons _ between => exact ih' (List.cons.inj later).2
      · cases between with
        | nil => exact absurd (List.cons.inj same).1.symm other
        | cons _ between =>
          obtain ⟨rfl, rfl⟩ := List.cons.inj same
          exact (ih rfl).append _

/-- How many brackets are open behind a word in front of which some are; none when one is closed
that is not open. -/
def openBehind? : Nat → List Token → Option Nat
  | depth, [] => some depth
  | depth, .punctuation m :: word =>
    if m ∈ openings then openBehind? (depth + 1) word
    else if m ∈ closings then
      match depth with
      | 0 => none
      | depth + 1 => openBehind? depth word
    else openBehind? depth word
  | depth, _ :: word => openBehind? depth word

theorem openBehind?_plain (plain : IsPlain t) (depth : Nat) (word : List Token) :
    openBehind? depth (t :: word) = openBehind? depth word := by
  cases t with
  | punctuation m =>
    have opens : m ∉ openings := fun listed => plain m (List.mem_append_left _ listed) rfl
    have closes : m ∉ closings := fun listed => plain m (List.mem_append_right _ listed) rfl
    rw [openBehind?.eq_def]
    simp only [if_neg opens, if_neg closes]
  | _ => rfl

theorem openBehind?_opening (opens : m ∈ openings) (depth : Nat) (word : List Token) :
    openBehind? depth (mark m :: word) = openBehind? (depth + 1) word := by
  rw [openBehind?.eq_def]
  simp only [if_pos opens]

theorem openBehind?_closing (closes : m ∈ closings) (depth : Nat) (word : List Token) :
    openBehind? (depth + 1) (mark m :: word) = openBehind? depth word := by
  have opens : m ∉ openings := fun opens => not_mem_closings opens closes
  rw [openBehind?.eq_def]
  simp only [if_neg opens, if_pos closes]

/-- As many brackets are open behind a balanced word as in front of it. -/
theorem Balanced.openBehind?_eq (h : Balanced word) (depth : Nat) (behind : List Token) :
    openBehind? depth (word ++ behind) = openBehind? depth behind := by
  induction h generalizing depth behind with
  | nil => rfl
  | plain plain _ ih => rw [List.cons_append, openBehind?_plain plain, ih]
  | nest opens _ _ ih ih' =>
    rw [List.cons_append, List.cons_append, openBehind?_opening opens, List.append_assoc, ih,
      List.cons_append, openBehind?_closing (closing_mem_closings _), ih']

/-- A balanced word closes no bracket in front of it. -/
theorem Balanced.not_closedBy (h : Balanced word) (m : Punctuation) : ¬ ClosedBy m word := by
  rintro ⟨inside, behind, rfl, balanced⟩
  have whole := h.openBehind?_eq 0 []
  have closes := closing_mem_closings m
  have opens : Stream.closing m ∉ openings := fun opens => not_mem_closings opens closes
  rw [List.append_assoc, balanced.openBehind?_eq, List.cons_append, openBehind?.eq_def] at whole
  simp only [if_neg opens, if_pos closes] at whole
  cases whole

end ExprScript.Grammar
