import Mathlib
import ExprScript.Eval.Number

/-!
# The bits of doubles

A double is decoded into a sign, a mantissa and an exponent, computed with and packed again. What is
decoded from bits is in one canonical form, and in this form nothing is lost on the way: packing and
decoding are inverse, so a double is known by what it is decoded into.
-/

namespace ExprScript.Double

open Float.Model (UnpackedFloat Format totalExponent)
open Float.Model.UnpackedFloat

/-- Mantissa and exponent of a double other than zero: 53 bits at most, and all of them in use unless
the exponent is the least. -/
structure Canonical (m : Nat) (e : Int) : Prop where
  pos : 0 < m
  lt : m < 2 ^ 53
  least : -1074 ≤ e
  greatest : e ≤ 971
  full : 2 ^ 52 ≤ m ∨ e = -1074

variable {m : Nat} {e : Int}

/-- Rounding aims at the canonical exponent. -/
theorem Canonical.targetExponent_eq (h : Canonical m e) :
    Format.binary64.targetExponent (totalExponent m e) = e := by
  have target : Format.binary64.targetExponent (totalExponent m e) =
      max ((m.log2 : Int) + 1 + e - 53) (-1074) := rfl
  have few : m.log2 < 53 := (Nat.log2_lt h.pos.ne').2 h.lt
  have least := h.least
  rcases h.full with many | small
  · have : 52 ≤ m.log2 := (Nat.le_log2 h.pos.ne').2 many
    omega
  · omega

/-! ### The three parts of the bits -/

theorem toNat_implicit (mantissa : BitVec 52) :
    (1#1 ++ mantissa).toNat = 2 ^ 52 + mantissa.toNat := by
  rw [BitVec.toNat_append, ← Nat.shiftLeft_add_eq_or_of_lt mantissa.isLt, Nat.shiftLeft_eq]
  simp

theorem ofBitVec_toBitVec (s : UnpackedFloat.Sign) :
    UnpackedFloat.Sign.ofBitVec s.toBitVec = s := by
  cases s <;> rfl

theorem toBitVec_ofBitVec (v : BitVec 1) : (UnpackedFloat.Sign.ofBitVec v).toBitVec = v := by
  revert v
  decide

theorem unpackSign_packComponents {spec : Format} (s : UnpackedFloat.Sign)
    (exponent : BitVec spec.exponentBits) (mantissa : BitVec spec.mantissaBitsWithoutImplicit) :
    unpackSign (packComponents spec s exponent mantissa) = s.toBitVec := by
  ext i small
  obtain rfl : i = 0 := by omega
  simp [unpackSign, packComponents, BitVec.getLsbD_append, BitVec.getElem_append]

/-- What parts stand for once they are packed. -/
theorem unpack_packComponents (s : UnpackedFloat.Sign) (exponent : BitVec 11)
    (mantissa : BitVec 52) :
    unpack Format.binary64 (packComponents Format.binary64 s exponent mantissa) =
      if exponent = -1#11 then
        if mantissa = 0#52 then .infinity s else .notANumber
      else if exponent = 0#11 then
        if h : mantissa = 0#52 then .zero s
        else .finite s mantissa.toNat (-1074) (by simpa [BitVec.toNat_pos, BitVec.pos_iff_ne_zero])
      else .finite s (1#1 ++ mantissa).toNat (exponent.toNat - 1075)
        (by rw [toNat_implicit]; omega) := by
  unfold unpack
  simp only [unpackMantissa_packComponents, unpackExponent_packComponents,
    unpackSign_packComponents, ofBitVec_toBitVec]
  split
  · rfl
  · split
    · rename_i none
      subst none
      rfl
    · rfl

/-- A word is its three parts put together. -/
theorem packComponents_unpack (b : BitVec Format.binary64.numBits) :
    packComponents Format.binary64 (UnpackedFloat.Sign.ofBitVec (unpackSign b)) (unpackExponent b)
      (unpackMantissa b) = b := by
  simp only [packComponents, toBitVec_ofBitVec, unpackSign, unpackExponent, unpackMantissa]
  ext i small
  simp
  grind

/-! ### Packing and decoding -/

/-- How what is in canonical form is packed. -/
theorem pack_finite (h : Canonical m e) (s : UnpackedFloat.Sign) (pos : 0 < m) :
    UnpackedFloat.pack Format.binary64 (.finite s m e pos) =
      packComponents Format.binary64 s
        (if 2 ^ 52 ≤ m then BitVec.ofNat 11 (e + 1075).toNat else 0#11) (BitVec.ofNat 52 m) := by
  have bias : e + Format.binary64.exponentBias + Format.binary64.mantissaBitsWithoutImplicit =
      e + 1075 := by
    change e + 1023 + 52 = _
    omega
  have range : ¬ 2 ^ Format.binary64.exponentBits ≤ (e + 1075).toNat + 1 := by
    have greatest := h.greatest
    change ¬ 2 ^ 11 ≤ _
    omega
  have bits : m.log2 + 1 = Format.binary64.mantissaBits ↔ 2 ^ 52 ≤ m := by
    change m.log2 + 1 = 53 ↔ _
    have few : m.log2 < 53 := (Nat.log2_lt pos.ne').2 h.lt
    rw [← Nat.le_log2 pos.ne']
    omega
  rw [UnpackedFloat.pack]
  simp only [bias, bits]
  rw [if_neg range]
  split <;> rfl

/-- What is in canonical form is decoded from its own bits. -/
theorem unpack_pack_finite (h : Canonical m e) (s : UnpackedFloat.Sign) (pos : 0 < m) :
    unpack Format.binary64 (UnpackedFloat.pack Format.binary64 (.finite s m e pos)) =
      .finite s m e pos := by
  rw [pack_finite h, unpack_packComponents]
  obtain ⟨-, lt, least, greatest, full⟩ := h
  by_cases many : 2 ^ 52 ≤ m
  -- The leading bit is left out of the mantissa, and the exponent is none of the two special ones.
  · have exponent : (BitVec.ofNat 11 (e + 1075).toNat).toNat = (e + 1075).toNat := by
      rw [BitVec.toNat_ofNat, Nat.mod_eq_of_lt (by omega)]
    have between (v : BitVec 11) (other : v.toNat ≠ (e + 1075).toNat) :
        ¬ BitVec.ofNat 11 (e + 1075).toNat = v := by
      rintro rfl
      exact other exponent
    have mantissa : (1#1 ++ BitVec.ofNat 52 m).toNat = m := by
      rw [toNat_implicit, BitVec.toNat_ofNat]
      omega
    have ones : (-1#11).toNat = 2 ^ 11 - 1 := rfl
    rw [if_pos many, if_neg (between _ (by omega)), if_neg (between _ (by simp; omega))]
    simp only [mantissa, exponent]
    congr 1
    omega
  -- All bits are kept, and the exponent is that of zero.
  · obtain rfl : e = -1074 := full.resolve_left many
    have mantissa : (BitVec.ofNat 52 m).toNat = m := by
      rw [BitVec.toNat_ofNat, Nat.mod_eq_of_lt (by omega)]
    have nonzero : ¬ BitVec.ofNat 52 m = 0#52 := by
      intro zero
      rw [zero] at mantissa
      exact pos.ne mantissa
    rw [if_neg many, if_neg (by decide), if_pos rfl, dif_neg nonzero]
    simp only [mantissa]

/-- What is decoded from bits is in canonical form, and the bits are those that it is packed into. -/
theorem parts_of_unpack {b : BitVec Format.binary64.numBits} {s : UnpackedFloat.Sign} {pos : 0 < m}
    (h : unpack Format.binary64 b = .finite s m e pos) :
    Canonical m e ∧ packComponents Format.binary64 s
      (if 2 ^ 52 ≤ m then BitVec.ofNat 11 (e + 1075).toNat else 0#11) (BitVec.ofNat 52 m) = b := by
  have parts := packComponents_unpack b
  rw [← parts, unpack_packComponents] at h
  generalize unpackExponent b = exponent at h parts
  generalize unpackMantissa b = mantissa at h parts
  have few : mantissa.toNat < 2 ^ 52 := mantissa.isLt
  have small : exponent.toNat < 2 ^ 11 := exponent.isLt
  split at h
  · split at h <;> cases h
  · rename_i finite
    split at h
    · rename_i zero
      split at h
      · cases h
      · cases h
        rw [if_neg (by omega), BitVec.ofNat_toNat, BitVec.setWidth_eq, ← zero]
        exact ⟨⟨pos, by omega, by omega, by omega, .inr rfl⟩, parts⟩
    · rename_i normal
      cases h
      have finite : exponent.toNat ≠ 2 ^ 11 - 1 := fun ones => finite (BitVec.eq_of_toNat_eq ones)
      have normal : exponent.toNat ≠ 0 := fun zero => normal (BitVec.eq_of_toNat_eq zero)
      have exponent_eq : BitVec.ofNat 11 ((exponent.toNat : Int) - 1075 + 1075).toNat = exponent := by
        rw [Int.sub_add_cancel, Int.toNat_natCast, BitVec.ofNat_toNat, BitVec.setWidth_eq]
      have mantissa_eq : BitVec.ofNat 52 (2 ^ 52 + mantissa.toNat) = mantissa := by
        apply BitVec.eq_of_toNat_eq
        rw [BitVec.toNat_ofNat]
        omega
      rw [toNat_implicit, if_pos (by omega), exponent_eq, mantissa_eq]
      exact ⟨⟨by omega, by omega, by omega, by omega, .inl (by omega)⟩, parts⟩

/-- Bits are packed from what they are decoded into, since only one word stands for what is not a
number. -/
theorem pack_unpack {b : BitVec Format.binary64.numBits} (valid : Format.binary64.Valid b) :
    UnpackedFloat.pack Format.binary64 (unpack Format.binary64 b) = b := by
  have parts := packComponents_unpack b
  have finite {s : UnpackedFloat.Sign} {m : Nat} {e : Int} {pos : 0 < m}
      (decoded : unpack Format.binary64 b = .finite s m e pos) :
      UnpackedFloat.pack Format.binary64 (unpack Format.binary64 b) = b := by
    obtain ⟨canonical, packed⟩ := parts_of_unpack decoded
    rw [decoded, pack_finite canonical, packed]
  have decoded :=
    unpack_packComponents (UnpackedFloat.Sign.ofBitVec (unpackSign b)) (unpackExponent b)
      (unpackMantissa b)
  rw [parts] at decoded
  split at decoded
  · rename_i ones
    split at decoded
    · rename_i none
      rw [ones, none] at parts
      exact (congrArg _ decoded).trans parts
    · rename_i some
      exact (congrArg _ decoded).trans (valid.eq_packedNaN ones some).symm
  · split at decoded
    · rename_i zero
      split at decoded
      · rename_i none
        rw [zero, none] at parts
        exact (congrArg _ decoded).trans parts
      · exact finite decoded
    · exact finite decoded

/-- The double that has the parts. -/
def ofUnpacked (x : UnpackedFloat) : Float :=
  Float.ofModel (Float.Model.pack x)

/-- A double is known by what it is decoded into. -/
theorem ofUnpacked_unpack (x : Float) : ofUnpacked x.toModel.unpack = x := by
  obtain ⟨bits, valid⟩ := x
  simp only [ofUnpacked, Float.Model.pack, Float.Model.unpack, pack_unpack valid]

theorem unpack_ofUnpacked (h : Canonical m e) (s : UnpackedFloat.Sign) (pos : 0 < m) :
    (ofUnpacked (.finite s m e pos)).toModel.unpack = .finite s m e pos :=
  unpack_pack_finite h s pos

theorem canonical_of_unpack {x : Float} {s : UnpackedFloat.Sign} {pos : 0 < m}
    (h : x.toModel.unpack = .finite s m e pos) : Canonical m e :=
  (parts_of_unpack h).1

end ExprScript.Double
