import ExprScript.Proofs.Double.Packing

/-!
# Exact results

Where the exact result of an operation is itself a double, rounding leaves it as it is. Exact results
are compared as rationals, since one number is `m * 2 ^ e` in many ways; which of these an operation
comes by does not matter, as long as no digit is missing. From this it follows that a decimal denotes
the very double that has its value, both where reading multiplies or divides by a power of ten from
the table and where it computes with the digits at once.
-/

namespace ExprScript.Double

open Float.Model (UnpackedFloat Format totalExponent)
open Float.Model.UnpackedFloat

variable {m n : Nat} {e k : Int}

/-! ### Numbers scaled by powers of two -/

theorem log2_mul_two_pow (pos : 0 < m) (k : Nat) : (m * 2 ^ k).log2 = m.log2 + k := by
  induction k with
  | zero => simp
  | succ k ih =>
    rw [pow_succ', ← mul_assoc, mul_comm m, mul_assoc, Nat.log2_two_mul (by positivity), ih]
    omega

theorem cast_mul_two_pow (m : Nat) (le : k ≤ e) :
    ((m * 2 ^ (e - k).toNat : Nat) : ℚ) * 2 ^ k = m * 2 ^ e := by
  obtain ⟨d, rfl⟩ := Int.le.dest le
  have amount : (k + d - k : Int).toNat = d := by omega
  rw [amount, zpow_add₀ two_ne_zero, zpow_natCast]
  push_cast
  ring

/-- Of two ways to scale a number, the one by the smaller power has zeros at its end. -/
theorem eq_mul_two_pow (same : (n : ℚ) * 2 ^ k = m * 2 ^ e) (le : k ≤ e) :
    n = m * 2 ^ (e - k).toNat := by
  rw [← cast_mul_two_pow m le] at same
  exact_mod_cast mul_right_cancel₀ (zpow_ne_zero k two_ne_zero) same

theorem totalExponent_eq (pos : 0 < m) (pos' : 0 < n)
    (same : (n : ℚ) * 2 ^ k = m * 2 ^ e) : totalExponent n k = totalExponent m e := by
  rw [totalExponent, totalExponent]
  rcases Int.le_total k e with le | le
  · rw [eq_mul_two_pow same le, log2_mul_two_pow pos]
    omega
  · rw [eq_mul_two_pow same.symm le, log2_mul_two_pow pos']
    omega

/-- A number with as many digits as a mantissa has at most is scaled by no greater power. -/
theorem Canonical.exponent_le (h : Canonical m e) (many : 2 ^ 53 ≤ n)
    (same : (n : ℚ) * 2 ^ k = m * 2 ^ e) : k ≤ e := by
  by_contra greater
  have large : n * 1 ≤ n * 2 ^ (k - e).toNat := Nat.mul_le_mul_left n Nat.one_le_two_pow
  rw [← eq_mul_two_pow same.symm (by omega)] at large
  have := h.lt
  omega

theorem log2_mul_le (pos : 0 < m) (pos' : 0 < n) : (m * n).log2 ≤ m.log2 + n.log2 + 1 := by
  have small : m * n < 2 ^ (m.log2 + 1) * 2 ^ (n.log2 + 1) :=
    Nat.mul_lt_mul'' Nat.lt_log2_self Nat.lt_log2_self
  rw [← pow_add, ← Nat.log2_lt (by positivity)] at small
  omega

theorem three_mul_le_log2 (n : Nat) : 3 * n ≤ (10 ^ n).log2 := by
  rw [Nat.le_log2 (by positivity), pow_mul]
  exact Nat.pow_le_pow_left (by decide) n

/-! ### Rounding what needs none -/

/-- Zeros at the end of a mantissa are shifted out without a trace. -/
theorem shiftRight_exact (m k : Nat) :
    (⟨m * 2 ^ k, false, false⟩ : ExtendedMantissa) >>> k = ⟨m, false, false⟩ := by
  change k.repeat ExtendedMantissa.shiftRightOne _ = _
  induction k generalizing m with
  | zero => simp [Nat.repeat]
  | succ k ih =>
    rw [pow_succ', ← mul_assoc, Nat.repeat, ih]
    simp [ExtendedMantissa.shiftRightOne]

theorem shiftToTargetExponent_exact (h : Canonical m e) (k : Nat) :
    shiftToTargetExponent Format.binary64 (m * 2 ^ k) (e - k) .exact = (⟨m, false, false⟩, e) := by
  have total : totalExponent (m * 2 ^ k) (e - k) = totalExponent m e := by
    rw [totalExponent, totalExponent, log2_mul_two_pow h.pos]
    omega
  have amount : (e - (e - k)).toNat = k := by omega
  rw [shiftToTargetExponent, total, h.targetExponent_eq, shiftToExponent, amount]
  simp only [ExtendedMantissa.ofMantissaAndAccuracy, shiftRight_exact, Int.sub_add_cancel]

/-- A number is rounded to its canonical form when it is scaled by no greater power. -/
theorem roundWithAccuracy_exact (h : Canonical m e) (s : UnpackedFloat.Sign)
    (same : (n : ℚ) * 2 ^ k = m * 2 ^ e) (le : k ≤ e) :
    roundWithAccuracy Format.binary64 s n k .exact = .finite s m e h.pos := by
  obtain ⟨d, rfl⟩ := Int.le.dest le
  have once := shiftToTargetExponent_exact h d
  have twice := shiftToTargetExponent_exact h 0
  rw [pow_zero, mul_one, Nat.cast_zero, Int.sub_zero] at twice
  have whole : n = m * 2 ^ d := by simpa using eq_mul_two_pow same le
  have place : k = k + d - d := by omega
  rw [← whole, ← place] at once
  have rounded : (⟨m, false, false⟩ : ExtendedMantissa).roundedMantissa = m := rfl
  unfold roundWithAccuracy
  simp only [once, rounded, twice, h.pos.ne', dite_false]

/-- Rounding in both directions finds the canonical form. -/
theorem round_exact (h : Canonical m e) (pos : 0 < n) (s : UnpackedFloat.Sign)
    (same : (n : ℚ) * 2 ^ k = m * 2 ^ e) :
    UnpackedFloat.round Format.binary64 s n k = .finite s m e h.pos := by
  unfold UnpackedFloat.round decreaseExponent
  simp only [totalExponent_eq h.pos pos same, h.targetExponent_eq, Nat.shiftLeft_eq]
  refine roundWithAccuracy_exact h s ?_ (by omega)
  rcases Int.le_total k e with le | le
  · rw [show (k - e).toNat = 0 by omega]
    simpa using same
  · rw [Int.toNat_sub_of_le le, Int.sub_sub_self, cast_mul_two_pow n le, same]

/-- A small natural number has a canonical form, with all its digits in use. -/
theorem exists_canonical (pos : 0 < n) (small : n < 2 ^ 53) :
    ∃ m e, Canonical m e ∧ 2 ^ 52 ≤ m ∧ (m * 2 ^ e : ℚ) = n := by
  have few : n.log2 < 53 := (Nat.log2_lt pos.ne').2 small
  have many : 2 ^ 52 ≤ n * 2 ^ (52 - n.log2) := by
    calc 2 ^ 52 = 2 ^ n.log2 * 2 ^ (52 - n.log2) := by rw [← pow_add]; congr 1; omega
      _ ≤ n * 2 ^ (52 - n.log2) := Nat.mul_le_mul_right _ (Nat.log2_self_le pos.ne')
  have lt : n * 2 ^ (52 - n.log2) < 2 ^ 53 := by
    calc n * 2 ^ (52 - n.log2) < 2 ^ (n.log2 + 1) * 2 ^ (52 - n.log2) :=
        Nat.mul_lt_mul_of_pos_right Nat.lt_log2_self (by positivity)
      _ = 2 ^ 53 := by rw [← pow_add]; congr 1; omega
  have amount : ((0 : Int) - (n.log2 - 52)).toNat = 52 - n.log2 := by omega
  have scaled := cast_mul_two_pow n (k := n.log2 - 52) (e := 0) (by omega)
  rw [amount, zpow_zero, mul_one] at scaled
  exact ⟨_, _, ⟨by positivity, lt, by omega, by omega, .inl many⟩, many, scaled⟩

/-! ### Operations -/

section Operations

variable {m₁ m₂ : Nat} {e₁ e₂ : Int} {pos₁ : 0 < m₁} {pos₂ : 0 < m₂}

theorem mul_exact (h : Canonical m e) (many : 2 ^ 53 ≤ m₁ * m₂)
    (same : (m₁ * 2 ^ e₁ : ℚ) * (m₂ * 2 ^ e₂) = m * 2 ^ e) :
    UnpackedFloat.mul Format.binary64 (.finite .positive m₁ e₁ pos₁) (.finite .positive m₂ e₂ pos₂) =
      .finite .positive m e h.pos := by
  have whole : ((m₁ * m₂ : Nat) : ℚ) * 2 ^ (e₁ + e₂) = m * 2 ^ e := by
    rw [← same, zpow_add₀ two_ne_zero, Nat.cast_mul]
    ring
  exact roundWithAccuracy_exact h .positive whole (h.exponent_le many whole)

/-- The place up to which a quotient is computed is not above that of its own digits. -/
theorem Canonical.targetExponent_sub_le (h : Canonical m e) (pos₁ : 0 < m₁) (pos₂ : 0 < m₂)
    (same : (m₁ * 2 ^ e₁ : ℚ) = (m * 2 ^ e) * (m₂ * 2 ^ e₂)) :
    Format.binary64.targetExponent (totalExponent m₁ e₁ - totalExponent m₂ e₂) ≤ e := by
  have whole : (m₁ : ℚ) * 2 ^ e₁ = (m * m₂ : Nat) * 2 ^ (e + e₂) := by
    rw [same, zpow_add₀ two_ne_zero, Nat.cast_mul]
    ring
  have total := totalExponent_eq (Nat.mul_pos h.pos pos₂) pos₁ whole
  have digits := log2_mul_le h.pos pos₂
  have place := h.targetExponent_eq
  unfold totalExponent at total place ⊢
  unfold Format.targetExponent at place ⊢
  omega

theorem div_exact (h : Canonical m e)
    (same : (m₁ * 2 ^ e₁ : ℚ) = (m * 2 ^ e) * (m₂ * 2 ^ e₂)) :
    UnpackedFloat.div Format.binary64 (.finite .positive m₁ e₁ pos₁) (.finite .positive m₂ e₂ pos₂) =
      .finite .positive m e h.pos := by
  have place := h.targetExponent_sub_le pos₁ pos₂ same
  change (match divCore Format.binary64 m₁ e₁ m₂ e₂ with
    | (m, e, acc) => roundWithAccuracy Format.binary64 .positive m e acc) = _
  unfold divCore
  generalize Format.binary64.targetExponent (totalExponent m₁ e₁ - totalExponent m₂ e₂) = target
    at place
  obtain ⟨low, shift⟩ : min (e₁ - e₂) target ≤ e ∧
      min (e₁ - e₂) target ≤ e₁ - e₂ := by omega
  generalize min (e₁ - e₂) target = place at low shift
  -- The dividend is a multiple of the divisor once it is shifted to this place.
  have shifted : m₁ <<< (e₁ - e₂ - place).toNat = m * 2 ^ (e - place).toNat * m₂ := by
    rw [Nat.shiftLeft_eq, mul_right_comm]
    refine eq_mul_two_pow ?_ low
    rw [cast_mul_two_pow m₁ shift, zpow_sub₀ two_ne_zero, ← mul_div_assoc, same, Nat.cast_mul]
    field_simp
  simp only [shifted, Nat.mul_div_cancel _ pos₂, Nat.mul_mod_left, accuracyOfFraction, if_true]
  exact roundWithAccuracy_exact h .positive (cast_mul_two_pow m low) low

end Operations

end ExprScript.Double
