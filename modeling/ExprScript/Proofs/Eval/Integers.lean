import ExprScript.Proofs.Eval.Numerals
import ExprScript.Proofs.Eval.Operands

/-!
# Arithmetic on integers

Integers, and the strings written as such, are computed with exactly: a result is the integer it
should be, and a double only where that integer is no word. A quotient is too large for one operand
pair alone. For this pair the remainder, which always fits, is a double as well.
-/

namespace ExprScript

/-! ### Words and exact results -/

/-- `v.StandsFor n x`: the value is the integer `n`, or the double `x` when no word is `n`. -/
inductive Value.StandsFor : Value → Int → Float → Prop where
  | integer {w : Int64} {n : Int} (x : Float) (same : w.toInt = n) : StandsFor (.integer w) n x
  | float {n : Int} (x : Float) (large : ∀ w : Int64, w.toInt ≠ n) : StandsFor (.float x) n x

namespace Value

theorem standsFor_fit? (n : Int) (x : Float) :
    Value.StandsFor (match Integer.fit? n with | some w => .integer w | none => .float x) n x := by
  split
  · rename_i w fits
    exact .integer x (Integer.toInt_of_fit? fits)
  · rename_i large
    refine .float x fun w same => ?_
    rw [Integer.fit?_eq_some_iff.2 same] at large
    cases large

variable {v : Value} {n : Int} {x : Float}

theorem StandsFor.eq_integer {w : Int64} (h : v.StandsFor n x) (fits : w.toInt = n) :
    v = .integer w := by
  cases h with
  | integer _ same => rw [Int64.toInt_inj.1 (same.trans fits.symm)]
  | float _ large => exact absurd fits (large w)

/-- The value is a double exactly where the integer is no word. -/
theorem StandsFor.isFloat_iff (h : v.StandsFor n x) :
    (∃ y, v = .float y) ↔ ∀ w : Int64, w.toInt ≠ n := by
  cases h with
  | integer _ same => simpa using ⟨_, same⟩
  | float _ large => simpa using large

end Value

theorem Number.Operation.standsFor_applyInts (f : Number.Operation) (a b : Int64) :
    (f.applyInts a b).StandsFor (f.onInts a.toInt b.toInt)
      (f.onFloats (Integer.toFloat a) (Integer.toFloat b)) :=
  Value.standsFor_fit? _ _

theorem Number.standsFor_negative (a : Int64) :
    (Number.int a).negative.StandsFor (-a.toInt) (-Integer.toFloat a) :=
  Value.standsFor_fit? _ _

theorem no_word_iff {n : Int} :
    (∀ w : Int64, w.toInt ≠ n) ↔ n < Int64.minValue.toInt ∨ Int64.maxValue.toInt < n := by
  rw [Int64.toInt_minValue, Int64.toInt_maxValue]
  constructor
  · intro large
    by_cases inside : -2 ^ 63 ≤ n ∧ n < 2 ^ 63
    · exact absurd (Int64.toInt_ofInt_of_le inside.1 inside.2) (large _)
    · omega
  · rintro outside w rfl
    have low := Int64.le_toInt w
    have high := Int64.toInt_lt w
    omega

/-- Of all words only the least one has an opposite that is no word. -/
theorem opposite_large_iff (a : Int64) :
    (∀ w : Int64, w.toInt ≠ -a.toInt) ↔ a = Int64.minValue := by
  have low := Int64.le_toInt a
  have high := Int64.toInt_lt a
  rw [no_word_iff, ← Int64.toInt_inj, Int64.toInt_minValue, Int64.toInt_maxValue]
  omega

/-- Of all quotients only that of the least word by minus one is no word. -/
theorem quotient_large_iff (a b : Int64) :
    (∀ w : Int64, w.toInt ≠ a.toInt.tdiv b.toInt) ↔ a = Int64.minValue ∧ b = -1 := by
  constructor
  · intro large
    by_cases least : a = Int64.minValue
    · by_cases minus : b = -1
      · exact ⟨least, minus⟩
      · exact absurd (Int64.toInt_div_of_ne_right a b minus) (large (a / b))
    · exact absurd (Int64.toInt_div_of_ne_left a b least) (large (a / b))
  · rintro ⟨rfl, rfl⟩
    have opposite := (opposite_large_iff Int64.minValue).2 rfl
    simpa using opposite

/-! ### The operators -/

section

variable {strict : Bool} {lhs rhs : Value} {a b : Int64} (left : lhs.Denotes strict a)
  (right : rhs.Denotes strict b)

include left right

theorem numericResult_of_denotes (op : BinaryOp) (f : Number.Operation) :
    numericResult strict op f lhs rhs = .ok (f.applyInts a b) :=
  numericResult_of_numbers (Value.operand_eq_int_iff.2 left) (Value.operand_eq_int_iff.2 right) f

theorem divideValues_of_denotes (op : BinaryOp) (f : Number.Operation) (fault : ArithmeticFault) :
    divideValues strict op f fault lhs rhs =
      if b = 0 then .error (.arithmetic fault)
      else if a = Int64.minValue ∧ b = -1 then
        .ok (.float (f.onFloats (Integer.toFloat a) (Integer.toFloat b)))
      else .ok (f.applyInts a b) :=
  divideValues_of_ints (Value.operand_eq_int_iff.2 left) (Value.operand_eq_int_iff.2 right) f fault

/-- Null is a number in an addition unless the other operand is a string. -/
theorem addValues_of_denotes (beside : lhs = .null → rhs.kind ≠ .string)
    (beside' : rhs = .null → lhs.kind ≠ .string) :
    addValues strict lhs rhs = .ok (Number.addition.applyInts a b) := by
  have number {v : Value} {n : Int64} (h : v ≠ .null) (denotes : v.Denotes strict n) :
      v.number? = some (.int n) := by
    simpa [Value.operand_of_ne_null h] using Value.operand_eq_int_iff.2 denotes
  unfold addValues
  split
  · rename_i text
    have nonnull : lhs ≠ .null := by
      rintro rfl
      exact text.elim (by simp [Value.kind]) (beside rfl)
    have nonnull' : rhs ≠ .null := by
      rintro rfl
      exact text.elim (beside' rfl) (by simp [Value.kind])
    rw [number nonnull left, number nonnull' right]
    rfl
  · exact numericResult_of_denotes left right .add Number.addition

/-- A quotient by another integer than zero is the exact one, cut off toward zero, wherever this
is a word. -/
theorem divide_of_denotes (nonzero : b ≠ 0) :
    ∃ v, BinaryOp.divide.apply strict lhs rhs = .ok v ∧
      v.StandsFor (a.toInt.tdiv b.toInt) (Integer.toFloat a / Integer.toFloat b) := by
  rw [BinaryOp.apply, divideValues_of_denotes left right, if_neg nonzero]
  split
  · rename_i corner
    exact ⟨_, rfl, .float _ ((quotient_large_iff a b).2 corner)⟩
  · exact ⟨_, rfl, Number.division.standsFor_applyInts a b⟩

/-- A remainder is the exact one, except in the corner where the quotient is no word. -/
theorem modulo_of_denotes (nonzero : b ≠ 0) :
    (a = Int64.minValue ∧ b = -1 ∧ ∃ x, BinaryOp.modulo.apply strict lhs rhs = .ok (.float x)) ∨
      ¬ (a = Int64.minValue ∧ b = -1) ∧
        BinaryOp.modulo.apply strict lhs rhs = .ok (.integer (a % b)) := by
  rw [BinaryOp.apply, divideValues_of_denotes left right, if_neg nonzero]
  split
  · rename_i corner
    exact .inl ⟨corner.1, corner.2, _, rfl⟩
  · rename_i other
    refine .inr ⟨other, congrArg _ ?_⟩
    exact (Number.remainder.standsFor_applyInts a b).eq_integer (Int64.toInt_mod a b)

end

/-- Integer arithmetic never wraps. Each result is the exact integer, or a double where that is no
word, and nothing fails but the division by zero. -/
theorem integer_arithmetic_exact {strict : Bool} {lhs rhs : Value} {a b : Int64}
    (left : lhs.Denotes strict a) (right : rhs.Denotes strict b) :
    ((lhs = .null → rhs.kind ≠ .string) → (rhs = .null → lhs.kind ≠ .string) →
      ∃ v, BinaryOp.add.apply strict lhs rhs = .ok v ∧
        v.StandsFor (a.toInt + b.toInt) (Integer.toFloat a + Integer.toFloat b)) ∧
    (∃ v, BinaryOp.subtract.apply strict lhs rhs = .ok v ∧
      v.StandsFor (a.toInt - b.toInt) (Integer.toFloat a - Integer.toFloat b)) ∧
    (∃ v, BinaryOp.multiply.apply strict lhs rhs = .ok v ∧
      v.StandsFor (a.toInt * b.toInt) (Integer.toFloat a * Integer.toFloat b)) ∧
    (b ≠ 0 → ∃ v, BinaryOp.divide.apply strict lhs rhs = .ok v ∧
      v.StandsFor (a.toInt.tdiv b.toInt) (Integer.toFloat a / Integer.toFloat b) ∧
      ((∃ x, v = .float x) ↔ a = Int64.minValue ∧ b = -1)) ∧
    ((∃ fault, BinaryOp.divide.apply strict lhs rhs = .error (.arithmetic fault)) ↔ b = 0) ∧
    ∃ v, UnaryOp.negate.apply strict lhs = .ok v ∧
      v.StandsFor (-a.toInt) (-Integer.toFloat a) ∧
      ((∃ x, v = .float x) ↔ a = Int64.minValue) := by
  refine ⟨fun beside beside' => ?_, ?_, ?_, fun nonzero => ?_, ?_, ?_⟩
  · exact ⟨_, addValues_of_denotes left right beside beside',
      Number.addition.standsFor_applyInts a b⟩
  · exact ⟨_, numericResult_of_denotes left right .subtract Number.subtraction,
      Number.subtraction.standsFor_applyInts a b⟩
  · exact ⟨_, numericResult_of_denotes left right .multiply Number.multiplication,
      Number.multiplication.standsFor_applyInts a b⟩
  · obtain ⟨v, divided, stands⟩ := divide_of_denotes left right nonzero
    exact ⟨v, divided, stands, stands.isFloat_iff.trans (quotient_large_iff a b)⟩
  · constructor
    · rintro ⟨fault, failed⟩
      by_cases zero : b = 0
      · exact zero
      · obtain ⟨v, divided, -⟩ := divide_of_denotes left right zero
        cases divided.symm.trans failed
    · rintro rfl
      exact ⟨_, divideValues_of_denotes left right .divide Number.division .divisionByZero⟩
  · have stands := Number.standsFor_negative a
    refine ⟨_, ?_, stands, stands.isFloat_iff.trans (opposite_large_iff a)⟩
    rw [UnaryOp.apply, Value.operand_eq_int_iff.2 left]
    rfl

/-- A quotient too large for a word, of operands that are strings. -/
theorem integer_arithmetic_exact_least :
    (Value.string " -9223372036854775808").Denotes true Int64.minValue ∧
    (Value.string "-1\n").Denotes true (-1) ∧
    (∃ v, BinaryOp.add.apply true (.string " -9223372036854775808") (.string "-1\n") = .ok v ∧
      v.StandsFor (-9223372036854775809) (Integer.toFloat Int64.minValue + Integer.toFloat (-1))) ∧
    ∃ v, BinaryOp.divide.apply true (.string " -9223372036854775808") (.string "-1\n") = .ok v ∧
      ∃ x, v = .float x := by
  have left : (Value.string " -9223372036854775808").Denotes true Int64.minValue :=
    .numeral true (numeral_iff.2 (by decide))
  have right : (Value.string "-1\n").Denotes true (-1) :=
    .numeral true (numeral_iff.2 (by decide))
  obtain ⟨sum, -, -, quotient, -⟩ := integer_arithmetic_exact left right
  refine ⟨left, right, sum (by simp) (by simp), ?_⟩
  obtain ⟨v, divided, -, float⟩ := quotient (by decide)
  exact ⟨v, divided, float.2 ⟨rfl, rfl⟩⟩

/-- A remainder is an integer except for the least integer by minus one. It is smaller than the
divisor, has the sign of the dividend, and completes the quotient to the dividend. -/
theorem integer_remainder_exact {strict : Bool} {lhs rhs : Value} {a b : Int64}
    (left : lhs.Denotes strict a) (right : rhs.Denotes strict b) (nonzero : b ≠ 0) :
    ((∃ r, BinaryOp.modulo.apply strict lhs rhs = .ok (.integer r)) ↔
      ¬ (a = Int64.minValue ∧ b = -1)) ∧
    ∀ r, BinaryOp.modulo.apply strict lhs rhs = .ok (.integer r) →
      r.toInt.natAbs < b.toInt.natAbs ∧ (r = 0 ∨ r.toInt.sign = a.toInt.sign) ∧
      a.toInt = a.toInt.tdiv b.toInt * b.toInt + r.toInt := by
  rcases modulo_of_denotes left right nonzero with ⟨least, minus, x, double⟩ | ⟨other, exact⟩
  · rw [double]
    simp [least, minus]
  · rw [exact]
    refine ⟨⟨fun _ => other, fun _ => ⟨_, rfl⟩⟩, ?_⟩
    rintro _ ⟨⟩
    have size : b.toInt ≠ 0 := fun zero => nonzero (Int64.toInt_inj.1 zero)
    refine ⟨?_, ?_, ?_⟩
    · rw [Int64.toInt_mod, Int.natAbs_tmod]
      exact Nat.mod_lt _ (Int.natAbs_pos.2 size)
    · by_cases zero : a % b = 0
      · exact .inl zero
      · right
        have rest : ¬ b.toInt ∣ a.toInt := by
          intro divides
          have none : (a % b).toInt = 0 := by
            rw [Int64.toInt_mod, Int.tmod_eq_zero_of_dvd divides]
          exact zero (Int64.toInt_inj.1 none)
        rw [Int64.toInt_mod, Int.sign_tmod, if_neg rest]
    · rw [Int64.toInt_mod, Int.mul_comm]
      exact (Int.mul_tdiv_add_tmod a.toInt b.toInt).symm

/-- The least integer leaves a remainder by every other divisor. -/
theorem integer_remainder_exact_least :
    (Value.integer Int64.minValue).Denotes false Int64.minValue ∧
    (Value.string "+10").Denotes false 10 ∧ (10 : Int64) ≠ 0 ∧
    ∃ r, BinaryOp.modulo.apply false (.integer Int64.minValue) (.string "+10") = .ok (.integer r) ∧
      r.toInt.natAbs < 10 ∧ (r = 0 ∨ r.toInt.sign = -1) := by
  have left : (Value.integer Int64.minValue).Denotes false Int64.minValue := .integer ..
  have right : (Value.string "+10").Denotes false 10 := .numeral false (numeral_iff.2 (by decide))
  obtain ⟨exact, each⟩ := integer_remainder_exact left right (by decide)
  obtain ⟨r, remainder⟩ := exact.2 (by decide)
  obtain ⟨smaller, sign, -⟩ := each r remainder
  exact ⟨left, right, by decide, r, remainder, smaller, sign⟩

/-- The remainder of the least integer by minus one is a double, although zero is a word. -/
theorem least_remainder_double :
    BinaryOp.modulo.apply false (.integer Int64.minValue) (.integer (-1)) = .ok (.float (-0.0)) ∧
    ¬ ∃ r, BinaryOp.modulo.apply false (.integer Int64.minValue) (.integer (-1)) =
      .ok (.integer r) := by
  have double :
      BinaryOp.modulo.apply false (.integer Int64.minValue) (.integer (-1)) = .ok (.float (-0.0)) :=
    rfl
  refine ⟨double, ?_⟩
  rintro ⟨r, same⟩
  rw [double] at same
  cases same

end ExprScript
