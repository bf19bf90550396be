import Mathlib
import ExprScript.Eval.Number

/-!
# The order of doubles

Comparing two doubles is comparing what their bits stand for: two numbers have an order, with the
operands exchanged the reverse one, and they are equal when this is the order of equals. Only what
is not a number has no order, and the double of an integer is a number.
-/

namespace ExprScript.Double

open Float.Model (UnpackedFloat Format)
open Float.Model.UnpackedFloat

/-! ### Decoded doubles -/

theorem compare_swap (x y : UnpackedFloat) : y.compare x = (x.compare y).map Ordering.swap := by
  cases x with
  | notANumber => cases y <;> rfl
  | infinity s =>
    cases y with
    | infinity t => cases s <;> cases t <;> rfl
    | _ => cases s <;> rfl
  | zero s =>
    cases y with
    | infinity t | finite t => cases t <;> rfl
    | _ => rfl
  | finite s m e =>
    cases y with
    | infinity t => cases s <;> cases t <;> rfl
    | notANumber => rfl
    | zero t => cases s <;> rfl
    | finite t m' e' =>
      -- Of one sign they are ordered by exponent and mantissa, as integers and as naturals.
      cases s <;> cases t <;>
        simp [UnpackedFloat.compare, Ordering.swap_then, Int.compare_swap, Nat.compare_swap]

theorem compare_eq_none_iff (x y : UnpackedFloat) :
    x.compare y = none ↔ x.isNaN = true ∨ y.isNaN = true := by
  fun_cases UnpackedFloat.compare x y <;> simp_all [UnpackedFloat.isNaN]

/-! ### Doubles -/

theorem lt_iff_compare (x y : Float) : x < y ↔ x.toModel.compare y.toModel = some .lt := by
  change decide (x.toModel < y.toModel) = true ↔ _
  rw [decide_eq_true_iff]
  change (x.toModel.compare y.toModel == some .lt) = true ↔ _
  exact beq_iff_eq

theorem beq_iff_compare (x y : Float) :
    (x == y) = true ↔ x.toModel.compare y.toModel = some .eq := by
  change (x.toModel.compare y.toModel == some .eq) = true ↔ _
  exact beq_iff_eq

/-- The three tests of the comparison find the order of what the doubles stand for. -/
theorem compareFloats_eq (x y : Float) :
    Number.compareFloats x y = x.toModel.compare y.toModel := by
  have reversed : y < x ↔ x.toModel.compare y.toModel = some .gt := by
    rw [lt_iff_compare, Float.Model.compare, compare_swap]
    simp [Float.Model.compare, Ordering.swap_eq_lt]
  simp only [Number.compareFloats, lt_iff_compare x y, beq_iff_compare, reversed]
  cases x.toModel.compare y.toModel with
  | none => rfl
  | some order => cases order <;> rfl

theorem compareFloats_swap (x y : Float) :
    Number.compareFloats y x = (Number.compareFloats x y).map Ordering.swap := by
  rw [compareFloats_eq, compareFloats_eq]
  exact compare_swap _ _

theorem compareFloats_eq_iff (x y : Float) :
    Number.compareFloats x y = some .eq ↔ (x == y) = true := by
  rw [compareFloats_eq, beq_iff_compare]

theorem compareFloats_eq_none_iff (x y : Float) :
    Number.compareFloats x y = none ↔ x.isNaN = true ∨ y.isNaN = true := by
  rw [compareFloats_eq]
  exact compare_eq_none_iff _ _

/-! ### Doubles that are numbers -/

theorem not_isNaN_of_isFinite {x : Float} (h : x.isFinite = true) : x.isNaN = false := by
  revert h
  change x.toModel.unpack.isFinite = true → x.toModel.unpack.isNaN = false
  cases x.toModel.unpack with
  | notANumber => simp [UnpackedFloat.isFinite]
  | _ => intro; rfl

/-- A number is equal to itself. -/
theorem beq_self {x : Float} (number : x.isNaN = false) : (x == x) = true := by
  rw [← compareFloats_eq_iff]
  have swapped := compareFloats_swap x x
  cases order : Number.compareFloats x x with
  | none =>
    rcases (compareFloats_eq_none_iff x x).1 order with none | none <;>
      exact absurd (number.symm.trans none) Bool.false_ne_true
  | some o =>
    rw [order] at swapped
    cases o with
    | eq => rfl
    | lt | gt => cases swapped

theorem isInf_of_not_finite {x : Float} (endless : x.isFinite = false) (number : x.isNaN = false) :
    x.isInf = true := by
  revert endless number
  change x.toModel.unpack.isFinite = false → x.toModel.unpack.isNaN = false →
    x.toModel.unpack.isInf = true
  cases x.toModel.unpack with
  | infinity => exact fun _ _ => rfl
  | notANumber | zero | finite => exact nofun

/-- Bits stand for no number only with all ones in the exponent and something in the mantissa. -/
theorem isNaN_unpack {b : BitVec Format.binary64.numBits}
    (h : unpackExponent b = -1#11 → unpackMantissa b = 0#52) :
    (UnpackedFloat.unpack Format.binary64 b).isNaN = false := by
  fun_cases UnpackedFloat.unpack Format.binary64 b with
  | case2 mantissa exponent ones other => exact absurd (h ones) other
  | _ => rfl

/-- A number stays one when it is packed, be it as an infinity. -/
theorem isNaN_pack {x : UnpackedFloat} (h : x.isNaN = false) :
    (Float.Model.pack x).isNaN = false := by
  refine isNaN_unpack (b := UnpackedFloat.pack Format.binary64 x) ?_
  fun_cases UnpackedFloat.pack Format.binary64 x with
  | case1 => simp [UnpackedFloat.isNaN] at h
  | case2 => simp [packedInfinity]
  | case3 => simp [packedZero]
  | case4 => simp [packedInfinity]
  | case5 _ m e _ _ biased small =>
    have small : ¬ 2 ^ 11 ≤ biased + 1 := small
    rw [unpackExponent_packComponents]
    intro ones
    have := congrArg BitVec.toNat ones
    simp at this
    omega
  | case6 => simp

theorem isNaN_roundWithAccuracy (sign : UnpackedFloat.Sign) (m : Nat) (e : Int)
    (accuracy : Accuracy) :
    (roundWithAccuracy Format.binary64 sign m e accuracy).isNaN = false := by
  unfold roundWithAccuracy
  dsimp only
  split <;> rfl

theorem isNaN_normalize (m e : Int) (sign : UnpackedFloat.Sign) :
    (UnpackedFloat.normalize Format.binary64 m e sign).isNaN = false := by
  unfold UnpackedFloat.normalize
  split
  · exact isNaN_roundWithAccuracy ..
  · rfl
  · exact isNaN_roundWithAccuracy ..

/-- A number times a finite one other than zero is a number. -/
theorem isNaN_mul {x y : UnpackedFloat} (h : x.isNaN = false)
    (finite : ∃ sign m e positive, y = .finite sign m e positive) :
    (UnpackedFloat.mul Format.binary64 x y).isNaN = false := by
  obtain ⟨sign, m, e, positive, rfl⟩ := finite
  cases x with
  | notANumber => simp [UnpackedFloat.isNaN] at h
  | infinity | zero => rfl
  | finite => exact isNaN_roundWithAccuracy ..

theorem isNaN_neg {x : Float} (h : x.isNaN = false) : (-x).isNaN = false := by
  refine isNaN_pack ?_
  revert h
  change x.toModel.unpack.isNaN = false → _
  cases x.toModel.unpack with
  | notANumber => simp [UnpackedFloat.isNaN]
  | _ => intro; rfl

theorem isNaN_ofScientific (n : Nat) :
    (UnpackedFloat.ofScientific Format.binary64 n 0).isNaN = false := by
  unfold UnpackedFloat.ofScientific
  split
  · rfl
  · have range : (0 : Int) ≤ 2 ^ Format.binary64.exponentBits := by decide
    rw [if_neg (by omega), if_neg (by omega), if_pos (Int.le_refl 0)]
    exact isNaN_mul rfl ⟨_, _, _, _, rfl⟩

theorem isNaN_ofNat (n : Nat) : (Float.ofNat n).isNaN = false := by
  -- Small numbers are multiplied by a power of ten from a table, here by the first, which is one.
  have one : ∃ sign m e positive,
      Float.exactlyRepresentablePowersOfTen[0].toModel.unpack = .finite sign m e positive :=
    ⟨_, _, _, _, rfl⟩
  change (Float.ofScientific n false 0).isNaN = false
  unfold Float.ofScientific
  split
  · exact isNaN_pack (isNaN_mul (isNaN_pack (isNaN_normalize ..)) one)
  · exact isNaN_pack (isNaN_ofScientific n)

theorem isNaN_toFloat (n : Int64) : (Integer.toFloat n).isNaN = false := by
  unfold Integer.toFloat Float.ofInt
  split
  · exact isNaN_ofNat _
  · exact isNaN_neg (isNaN_ofNat _)

end ExprScript.Double
