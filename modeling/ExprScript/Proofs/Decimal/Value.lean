import ExprScript.Proofs.Double.Scientific
import ExprScript.Proofs.Token.Scanning

/-!
# The value of a decimal

A decimal is a rational number, and a decimal without zeros at its end is known by this number. So
to tell which decimal is read from digits it is enough to tell which number they are.
-/

namespace ExprScript.Decimal

/-- The number that a decimal is. -/
def value (d : Decimal) : ℚ := d.coefficient * 10 ^ d.exponent

/-- A decimal other than zero in its shortest form. -/
structure Normal (d : Decimal) : Prop where
  pos : 0 < d.coefficient
  shortest : ¬ 10 ∣ d.coefficient

/-- A decimal with the value of a double denotes it. -/
theorem toFloat_exact {d : Decimal} {m : Nat} {e : Int} (h : Double.Canonical m e)
    (same : d.value = m * 2 ^ e) :
    d.toFloat = Double.ofUnpacked (.finite .positive m e h.pos) := by
  refine Double.float_ofScientific_exact h ?_
  have sign : (if decide (d.exponent < 0) = true then -(d.exponent.natAbs : Int)
      else d.exponent.natAbs) = d.exponent := by
    split <;> rename_i sign <;> rw [decide_eq_true_eq] at sign <;> omega
  rw [sign]
  exact same

/-! ### Decimals of one value -/

theorem exponent_le_of_value {d d' : Decimal} (h : d'.Normal) (same : d.value = d'.value) :
    d.exponent ≤ d'.exponent := by
  by_contra greater
  obtain ⟨k, positive, above⟩ : ∃ k : Nat, 0 < k ∧ d.exponent = d'.exponent + k :=
    ⟨(d.exponent - d'.exponent).toNat, by omega, by omega⟩
  have whole : d.coefficient * 10 ^ k = d'.coefficient := by
    rw [value, value, above, zpow_add₀ (by norm_num), zpow_natCast, mul_comm ((10 : ℚ) ^ _),
      ← mul_assoc] at same
    exact_mod_cast mul_right_cancel₀ (zpow_ne_zero _ (by norm_num)) same
  refine h.shortest ?_
  rw [← whole]
  exact Dvd.dvd.mul_left (dvd_pow_self 10 positive.ne') _

/-- The shortest form is determined by the value. -/
theorem eq_of_value {d d' : Decimal} (h : d.Normal) (h' : d'.Normal) (same : d.value = d'.value) :
    d = d' := by
  have places : d.exponent = d'.exponent :=
    Int.le_antisymm (exponent_le_of_value h' same) (exponent_le_of_value h same.symm)
  rw [value, value, places] at same
  have digits : d.coefficient = d'.coefficient := by
    exact_mod_cast mul_right_cancel₀ (zpow_ne_zero _ (by norm_num)) same
  cases d
  cases d'
  congr

/-! ### Decimals of digits -/

/-- What is trimmed of digits is zeros, and no zero is left at the end. -/
theorem trimZeros_cases (digits : List Char) :
    ∃ zeros, digits = trimZeros digits ++ List.replicate zeros '0' ∧
      (trimZeros digits).getLast? ≠ some '0' := by
  refine ⟨(digits.reverse.takeWhile (· == '0')).length, ?_, ?_⟩
  · have zeros : digits.reverse.takeWhile (· == '0') =
        List.replicate (digits.reverse.takeWhile (· == '0')).length '0' := by
      refine List.eq_replicate_of_mem fun c mem => ?_
      simpa using List.all_eq_true.1 List.all_takeWhile c mem
    rw [← List.reverse_replicate, ← zeros, trimZeros, ← List.reverse_append,
      List.takeWhile_append_dropWhile, List.reverse_reverse]
  · rw [trimZeros, List.getLast?_reverse]
    intro zero
    have := List.head?_dropWhile_not (· == '0') digits.reverse
    rw [zero] at this
    simp at this

theorem value_ofDigits (digits : List Char) (e : Int) :
    (ofDigits digits e).value = Nat.ofDigitChars 10 digits 0 * 10 ^ e := by
  obtain ⟨zeros, whole, -⟩ := trimZeros_cases digits
  have count : digits.length - (trimZeros digits).length = zeros := by
    have := congrArg List.length whole
    simp at this
    omega
  have number : Nat.ofDigitChars 10 digits 0 =
      10 ^ zeros * Nat.ofDigitChars 10 (trimZeros digits) 0 := by
    conv_lhs => rw [whole]
    rw [Nat.ofDigitChars_append, Nat.ofDigitChars_replicate_zero]
  rw [ofDigits, value, count, number, zpow_add₀ (by norm_num), zpow_natCast]
  push_cast
  ring

theorem normal_ofDigits {digits : List Char} (all : ∀ c ∈ digits, c.isDigit = true)
    (nonzero : Nat.ofDigitChars 10 digits 0 ≠ 0) (e : Int) : (ofDigits digits e).Normal := by
  obtain ⟨zeros, whole, last⟩ := trimZeros_cases digits
  rw [whole, Nat.ofDigitChars_append, Nat.ofDigitChars_replicate_zero] at nonzero
  have kept : Nat.ofDigitChars 10 (trimZeros digits) 0 ≠ 0 := right_ne_zero_of_mul nonzero
  refine ⟨Nat.pos_of_ne_zero kept, ?_⟩
  change ¬ 10 ∣ Nat.ofDigitChars 10 (trimZeros digits) 0
  rcases List.eq_nil_or_concat (trimZeros digits) with none | ⟨front, c, some⟩
  · simp [none] at kept
  · have digit : c.isDigit = true := by
      refine all c ?_
      rw [whole, some]
      simp
    have other : c ≠ '0' := by
      rintro rfl
      simp [some] at last
    have range : 48 < c.toNat ∧ c.toNat ≤ 57 := by
      have different : c.toNat ≠ 48 := fun same => other (Char.toNat_inj.1 same)
      have digit : 48 ≤ c.toNat ∧ c.toNat ≤ 57 := Char.isDigit_iff_toNat.1 digit
      omega
    rw [some, List.concat_eq_append, Nat.ofDigitChars_append, Nat.ofDigitChars_cons,
      Nat.ofDigitChars_nil]
    change ¬ 10 ∣ 10 * _ + (c.toNat - 48)
    omega

theorem value_ofNat (n : Nat) (e : Int) : (ofNat n e).value = n * 10 ^ e := by
  rw [ofNat, value_ofDigits, Nat.ofDigitChars_ten_toDigits]

theorem normal_ofNat {n : Nat} (nonzero : n ≠ 0) (e : Int) : (ofNat n e).Normal := by
  refine normal_ofDigits (isDigits_toDigits n).2 ?_ e
  rwa [Nat.ofDigitChars_ten_toDigits]

end ExprScript.Decimal
