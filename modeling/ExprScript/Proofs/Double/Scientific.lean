import ExprScript.Proofs.Double.Exact

/-!
# Digits times a power of ten

A double is read from digits and a power of ten. If the number so written is a double, that very one
is read: no way there rounds, neither by the table of powers of ten nor by all digits at once.
-/

namespace ExprScript.Double

open Float.Model (UnpackedFloat Format totalExponent)
open Float.Model.UnpackedFloat

/-- Mantissa and exponent of a positive double. -/
def positiveParts? : UnpackedFloat → Option (Nat × Int)
  | .finite .positive m e _ => some (m, e)
  | _ => none

/-- The entries of the table are read off their bits. -/
theorem positiveParts_powersOfTen : ∀ a : Fin 23,
    (positiveParts? (Float.exactlyRepresentablePowersOfTen[a]).toModel.unpack).any
      (fun (m, e) => 2 ^ 52 ≤ m ∧ -52 ≤ e ∧ m * 2 ^ (e + 52).toNat = 10 ^ a.val * 2 ^ 52) := by
  decide +kernel

theorem unpack_powerOfTen {a : Nat} (small : a < Float.exactlyRepresentablePowersOfTen.size) :
    ∃ m e pos, Float.exactlyRepresentablePowersOfTen[a].toModel.unpack =
      .finite .positive m e pos ∧ 2 ^ 52 ≤ m ∧ (m * 2 ^ e : ℚ) = 10 ^ a := by
  have entry := positiveParts_powersOfTen ⟨a, small⟩
  simp only [Fin.getElem_fin] at entry
  generalize Float.exactlyRepresentablePowersOfTen[a].toModel.unpack = x at entry ⊢
  fun_cases positiveParts? x with
  | case2 => simp [positiveParts?] at entry
  | case1 m e pos =>
    simp only [positiveParts?, Option.any_some, decide_eq_true_eq] at entry
    obtain ⟨many, low, whole⟩ := entry
    have scaled := cast_mul_two_pow m low
    rw [Int.sub_neg, whole] at scaled
    refine ⟨m, e, pos, rfl, many, ?_⟩
    rw [← scaled]
    norm_num [mul_assoc]

variable {m n : Nat} {e : Int}

/-- A small natural number is a double, with all its digits in use. -/
theorem unpack_toFloat (pos : 0 < n) (small : n < 2 ^ 53) :
    ∃ m e pos, n.toUInt64.toFloat.toModel.unpack = .finite .positive m e pos ∧ 2 ^ 52 ≤ m ∧
      (m * 2 ^ e : ℚ) = n := by
  obtain ⟨m, e, canonical, many, same⟩ := exists_canonical pos small
  have rounded : UnpackedFloat.ofUInt64 Format.binary64 n.toUInt64 =
      .finite .positive m e canonical.pos := by
    have word : n.toUInt64.toNat = n := by simp; omega
    have sign : compare (n : Int) 0 = .gt := by simpa [Int.compare_eq_gt] using pos
    rw [UnpackedFloat.ofUInt64, UnpackedFloat.ofNat, word, UnpackedFloat.ofInt,
      UnpackedFloat.normalize, sign]
    exact round_exact canonical (by simpa using pos) .positive (by simpa using same.symm)
  refine ⟨m, e, canonical.pos, ?_, many, same⟩
  change (ofUnpacked (UnpackedFloat.ofUInt64 Format.binary64 n.toUInt64)).toModel.unpack = _
  rw [rounded, unpack_ofUnpacked canonical]

theorem Canonical.pos_of_same (h : Canonical m e) {x : ℚ} (same : n * x = m * 2 ^ e) : 0 < n := by
  rcases Nat.eq_zero_or_pos n with rfl | pos
  · have positive : (0 : ℚ) < m * 2 ^ e := by have := h.pos; positivity
    simp [← same] at positive
  · exact pos

theorem three_mul_le_log2_mul (pos : 0 < n) (a : Nat) : 3 * a ≤ (n * 10 ^ a).log2 := by
  have digits := three_mul_le_log2 a
  rw [Nat.le_log2 (by positivity)] at digits ⊢
  exact digits.trans (Nat.le_mul_of_pos_left _ pos)

/-- The digits of a decimal are multiplied or divided by a power of ten, neither of which rounds. -/
theorem ofScientific_exact (h : Canonical m e) {k : Int}
    (same : (n * 10 ^ k : ℚ) = m * 2 ^ e) :
    UnpackedFloat.ofScientific Format.binary64 n k = .finite .positive m e h.pos := by
  have few : m.log2 < 53 := (Nat.log2_lt h.pos.ne').2 h.lt
  have ⟨_, _, least, greatest, _⟩ := h
  have pos : 0 < n := h.pos_of_same same
  have limit : (2 : Int) ^ Format.binary64.exponentBits = 2048 := rfl
  unfold UnpackedFloat.ofScientific
  rw [dif_neg pos.ne', limit]
  rcases lt_or_ge k 0 with negative | nonnegative
  · obtain ⟨a, rfl⟩ := Int.exists_eq_neg_ofNat negative.le
    have ten : (10 : ℚ) ^ a ≠ 0 := by positivity
    rw [zpow_neg, zpow_natCast, ← div_eq_mul_inv, div_eq_iff ten] at same
    have whole : (n : ℚ) * 2 ^ (0 : Int) = (m * 10 ^ a : Nat) * 2 ^ e := by
      rw [zpow_zero, mul_one, same]
      push_cast
      ring
    have total := totalExponent_eq (Nat.mul_pos h.pos (by positivity)) pos whole
    have digits := three_mul_le_log2_mul h.pos a
    unfold totalExponent at total
    rw [if_neg (by omega), if_neg (by omega), if_neg (by omega)]
    refine div_exact h ?_
    simp [same]
  · obtain ⟨a, rfl⟩ := Int.eq_ofNat_of_zero_le nonnegative
    rw [zpow_natCast] at same
    have whole : ((n * 10 ^ a : Nat) : ℚ) * 2 ^ (0 : Int) = m * 2 ^ e := by
      rw [zpow_zero, mul_one, ← same]
      push_cast
      ring
    have total := totalExponent_eq h.pos (Nat.mul_pos pos (by positivity)) whole
    have digits := three_mul_le_log2_mul pos a
    unfold totalExponent at total
    rw [if_neg (by omega), if_neg (by omega), if_pos (by omega)]
    have bits : Format.binary64.mantissaBits = 53 := rfl
    refine mul_exact h ?_ ?_
    · rw [bits, Nat.shiftLeft_eq, mul_right_comm]
      exact Nat.le_mul_of_pos_left _ (by positivity)
    · rw [bits, Nat.shiftLeft_eq, ← same]
      push_cast
      norm_num [mul_assoc]

/-- So they are where a power from the table is used. -/
theorem float_ofScientific_exact (h : Canonical m e) {a : Nat} {negative : Bool}
    (same : (n * 10 ^ (if negative then -(a : Int) else a) : ℚ) = m * 2 ^ e) :
    Float.ofScientific n negative a = ofUnpacked (.finite .positive m e h.pos) := by
  unfold Float.ofScientific
  split
  · rename_i small
    have pos : 0 < n := h.pos_of_same same
    obtain ⟨m₁, e₁, pos₁, decoded₁, many₁, same₁⟩ := unpack_toFloat pos small.1
    have entry : a < Float.exactlyRepresentablePowersOfTen.size := Nat.lt_succ_of_le small.2
    obtain ⟨m₂, e₂, pos₂, decoded₂, many₂, same₂⟩ := unpack_powerOfTen entry
    have value : (n * 10 ^ a : ℚ) = (m₁ * 2 ^ e₁) * (m₂ * 2 ^ e₂) := by rw [same₁, same₂]
    cases negative with
    | true =>
      change ofUnpacked (UnpackedFloat.div _ _ _) = _
      rw [decoded₁, decoded₂, div_exact h]
      rw [same₁, same₂, ← same]
      simp
    | false =>
      change ofUnpacked (UnpackedFloat.mul _ _ _) = _
      rw [decoded₁, decoded₂, mul_exact h]
      · nlinarith
      · rw [← value, ← same]
        simp
  · change ofUnpacked (UnpackedFloat.ofScientific _ _ _) = _
    rw [ofScientific_exact h]
    cases negative <;> exact same

end ExprScript.Double
