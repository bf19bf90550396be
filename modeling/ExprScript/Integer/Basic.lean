/-!
# Integers of the language

Integers are signed 64-bit words. Arithmetic is done in `Int` and brought back only when the exact
result fits, so nothing wraps.
-/

namespace ExprScript.Integer

/-- The word of an integer that lies in the signed 64-bit range. -/
def fit? (n : Int) : Option Int64 :=
  if Int64.minValue.toInt ≤ n ∧ n ≤ Int64.maxValue.toInt then some (Int64.ofInt n) else none

theorem toInt_of_fit? {n : Int} {w : Int64} (h : fit? n = some w) : w.toInt = n := by
  unfold fit? at h
  split at h
  · rename_i range
    cases h
    exact Int64.toInt_ofInt_of_le range.1 (Int.lt_of_le_of_lt range.2 (by decide))
  · simp at h

theorem fit?_toInt (w : Int64) : fit? w.toInt = some w := by
  have low := Int64.le_toInt w
  have high := Int64.toInt_lt w
  simp only [fit?, Int64.toInt_minValue, Int64.toInt_maxValue, Int64.ofInt_toInt]
  rw [if_pos ⟨by omega, by omega⟩]

theorem fit?_eq_some_iff {n : Int} {w : Int64} : fit? n = some w ↔ w.toInt = n := by
  constructor
  · exact toInt_of_fit?
  · rintro rfl
    exact fit?_toInt w

/-- The decimal digits, after a minus sign when negative. -/
def digits (n : Int) : List Char :=
  if n < 0 then '-' :: Nat.toDigits 10 n.natAbs else Nat.toDigits 10 n.natAbs

def text (n : Int64) : String :=
  String.ofList (digits n.toInt)

def toFloat (n : Int64) : Float :=
  Float.ofInt n.toInt

end ExprScript.Integer
