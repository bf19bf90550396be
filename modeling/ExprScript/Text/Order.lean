/-!
# The order of texts

Texts are ordered by their first differing character, by code point; a text comes after its
beginnings.
-/

namespace ExprScript.Text

def compare : List Char → List Char → Ordering
  | [], [] => .eq
  | [], _ :: _ => .lt
  | _ :: _, [] => .gt
  | a :: left, b :: right => (Ord.compare a.toNat b.toNat).then (compare left right)

theorem compare_swap (a b : List Char) : compare b a = (compare a b).swap := by
  induction a generalizing b with
  | nil => cases b <;> rfl
  | cons c left ih =>
    cases b with
    | nil => rfl
    | cons d right => rw [compare, compare, Ordering.swap_then, ih, Nat.compare_swap]

theorem compare_eq_iff {a b : List Char} : compare a b = .eq ↔ a = b := by
  induction a generalizing b with
  | nil => cases b <;> simp [compare]
  | cons c left ih =>
    cases b with
    | nil => simp [compare]
    | cons d right => simp [compare, Ordering.then_eq_eq, ih, Char.toNat_inj]

end ExprScript.Text
