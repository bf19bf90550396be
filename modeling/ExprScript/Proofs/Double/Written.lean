import ExprScript.Proofs.Decimal.Written
import ExprScript.Proofs.Double.Order

/-!
# Written doubles

The text of a finite double is read back as this double, be it zero, negative or neither.
-/

namespace ExprScript

open Float.Model (UnpackedFloat Format)
open Float.Model.UnpackedFloat

namespace Decimal

open Double (ofUnpacked)

/-- Zero of any exponent denotes zero. -/
theorem toFloat_zero (e : Int) :
    (⟨0, e⟩ : Decimal).toFloat = ofUnpacked (.zero .positive) := by
  unfold toFloat Float.ofScientific
  split
  · rename_i small
    have entry : e.natAbs < Float.exactlyRepresentablePowersOfTen.size :=
      Nat.lt_succ_of_le small.2
    obtain ⟨m, e, pos, decoded, -⟩ := Double.unpack_powerOfTen entry
    have zero : (0 : Nat).toUInt64.toFloat.toModel.unpack = .zero .positive := rfl
    split
    · change ofUnpacked (UnpackedFloat.div _ _ _) = _
      rw [zero, decoded]
      rfl
    · change ofUnpacked (UnpackedFloat.mul _ _ _) = _
      rw [zero, decoded]
      rfl
  · rfl

variable {x : Float} {s : UnpackedFloat.Sign} {m : Nat} {e : Int} {pos : 0 < m}

/-- What equals a finite double other than zero has the same parts. -/
theorem eq_of_compare {u : UnpackedFloat}
    (h : u.compare (.finite .positive m e pos) = some .eq) : u = .finite .positive m e pos := by
  cases u with
  | notANumber => cases h
  | infinity s | zero s => cases s <;> cases h
  | finite s m' e' pos' =>
    cases s with
    | negative => cases h
    | positive =>
      simp only [UnpackedFloat.compare, Option.some.injEq, Ordering.then_eq_eq, Int.compare_eq_eq,
        Nat.compare_eq_eq] at h
      obtain ⟨rfl, rfl⟩ := h
      rfl

theorem eq_of_beq_abs {y : Float} (decoded : x.toModel.unpack = .finite s m e pos)
    (h : (y == x.abs) = true) : y = ofUnpacked (.finite .positive m e pos) := by
  have canonical := Double.canonical_of_unpack decoded
  have magnitude : x.abs = ofUnpacked (.finite .positive m e pos) := by
    change ofUnpacked x.toModel.unpack.abs = _
    rw [decoded]
    rfl
  have same : y.toModel.unpack = .finite .positive m e pos := by
    refine eq_of_compare ?_
    rw [← Double.unpack_ofUnpacked canonical, ← magnitude]
    exact (Double.beq_iff_compare y x.abs).1 h
  rw [← same, Double.ofUnpacked_unpack]

/-- All digits of a double make up its value. -/
theorem value_exact (decoded : x.toModel.unpack = .finite s m e pos) :
    (exact x).Normal ∧ (exact x).value = m * 2 ^ e := by
  have digits : exact x = ofNat (m * 2 ^ e.toNat * 5 ^ (-e).toNat) (min e 0) := by
    rw [exact, decoded, ← Nat.shiftLeft_eq]
    rfl
  rw [digits, value_ofNat]
  refine ⟨normal_ofNat (by positivity) _, ?_⟩
  rcases Int.le_total 0 e with le | le
  · obtain ⟨a, rfl⟩ := Int.eq_ofNat_of_zero_le le
    have none : (-(a : Int)).toNat = 0 := by omega
    rw [min_eq_right le, none, Int.toNat_natCast]
    simp
  · obtain ⟨a, rfl⟩ := Int.exists_eq_neg_ofNat le
    have none : (-(a : Int)).toNat = 0 := by omega
    rw [min_eq_left le, none, neg_neg, Int.toNat_natCast, zpow_neg, zpow_natCast, zpow_neg,
      zpow_natCast, show (10 : ℚ) = 2 * 5 by norm_num, mul_pow]
    push_cast
    field_simp

theorem ofNat_of_mem_neighbours {num den : Nat} {place : Int} {d : Decimal}
    (mem : d ∈ neighbours num den place) : ∃ n, d = ofNat n place := by
  unfold neighbours at mem
  dsimp only at mem
  split at mem <;> simp only [List.mem_cons, List.not_mem_nil, or_false] at mem <;>
    rcases mem with rfl | rfl <;> exact ⟨_, rfl⟩

/-- What denotes a double other than zero is other than zero. -/
theorem normal_of_toFloat {n : Nat} {place : Int} (h : Double.Canonical m e)
    (same : (ofNat n place).toFloat = ofUnpacked (.finite .positive m e pos)) :
    (ofNat n place).Normal := by
  refine normal_ofNat ?_ place
  rintro rfl
  have zero : (ofNat 0 place).toFloat = ofUnpacked (.zero .positive) := toFloat_zero _
  have decoded := Double.unpack_ofUnpacked h .positive pos
  rw [← same, zero] at decoded
  cases decoded

/-- The shortest decimal of a double denotes its magnitude. -/
theorem shortest_toFloat (decoded : x.toModel.unpack = .finite s m e pos) :
    (shortest x).Normal ∧ (shortest x).toFloat = ofUnpacked (.finite .positive m e pos) := by
  have canonical := Double.canonical_of_unpack decoded
  have parts : magnitude x = (m <<< e.toNat, 1 <<< (-e).toNat) := by
    rw [magnitude, decoded]
  have nonzero : ¬ m <<< e.toNat = 0 := by
    rw [Nat.shiftLeft_eq]
    positivity
  unfold shortest
  simp only [parts, nonzero, if_false]
  generalize leadingPlace _ _ = first
  generalize found : List.find? _ _ = choice
  -- Where no shorter decimal denotes the double, all its digits do.
  cases choice with
  | none =>
    obtain ⟨normal, value⟩ := value_exact decoded
    exact ⟨normal, toFloat_exact canonical value⟩
  | some d =>
    have same : d.toFloat = ofUnpacked (.finite .positive m e pos) :=
      eq_of_beq_abs decoded (List.find?_some found :)
    obtain ⟨count, -, mem⟩ := List.mem_flatMap.1 (List.mem_of_find?_eq_some found)
    obtain ⟨n, rfl⟩ := ofNat_of_mem_neighbours mem
    exact ⟨normal_of_toFloat canonical same, same⟩

end Decimal

namespace Double

variable {x : Float}

/-- A double that can be written in digits. -/
theorem isFinite_cases (finite : x.isFinite = true) :
    (∃ s, x.toModel.unpack = .zero s) ∨ ∃ s m e pos, x.toModel.unpack = .finite s m e pos := by
  revert finite
  change x.toModel.unpack.isFinite = true → _
  cases x.toModel.unpack with
  | notANumber | infinity => simp [UnpackedFloat.isFinite]
  | zero s => simp
  | finite s m e pos => exact fun _ => .inr ⟨s, m, e, pos, rfl⟩

/-- What is displayed of a finite double, less its sign, is read as its magnitude. -/
theorem read?_magnitude (finite : x.isFinite = true) :
    ∃ d, Decimal.read? (Decimal.shortest x).display = some d ∧
      d.toFloat = ofUnpacked x.toModel.unpack.abs := by
  rcases isFinite_cases finite with ⟨s, decoded⟩ | ⟨s, m, e, pos, decoded⟩
  · have zero : Decimal.shortest x = ⟨0, 0⟩ := by
      rw [Decimal.shortest, Decimal.magnitude, decoded]
      rfl
    have read : Decimal.read? (⟨0, 0⟩ : Decimal).display = some ⟨0, 1⟩ := by decide +kernel
    exact ⟨⟨0, 1⟩, by rw [zero, read], by rw [Decimal.toFloat_zero, decoded]; rfl⟩
  · obtain ⟨normal, same⟩ := Decimal.shortest_toFloat decoded
    exact ⟨_, Decimal.read?_display normal, by rw [same, decoded]; rfl⟩

theorem neg_ofUnpacked_abs (finite : x.isFinite = true) :
    (if isNegative x then -ofUnpacked x.toModel.unpack.abs else ofUnpacked x.toModel.unpack.abs) =
      x := by
  conv_rhs => rw [← ofUnpacked_unpack x]
  unfold isNegative
  rcases isFinite_cases finite with ⟨s, decoded⟩ | ⟨s, m, e, pos, decoded⟩
  · rw [decoded]
    cases s <;> rfl
  · have canonical := canonical_of_unpack decoded
    rw [decoded]
    cases s with
    | positive => rfl
    | negative =>
      change ofUnpacked (ofUnpacked (.finite .positive m e pos)).toModel.unpack.neg = _
      rw [unpack_ofUnpacked canonical]
      rfl

/-- The text of a finite double. -/
theorem toList_text (finite : x.isFinite = true) :
    (text x).toList =
      if isNegative x then '-' :: (Decimal.shortest x).display
      else (Decimal.shortest x).display := by
  have number := not_isNaN_of_isFinite finite
  have bounded : x.isInf = false := by
    change x.toModel.unpack.isInf = false
    rcases isFinite_cases finite with ⟨s, decoded⟩ | ⟨s, m, e, pos, decoded⟩ <;>
      rw [decoded] <;> rfl
  rw [text, textWith, number, bounded]
  simp only [Bool.false_eq_true, if_false, String.toList_ofList]

/-- The text of a finite double is read back as this double. -/
theorem read?_text (finite : x.isFinite = true) : read? (text x).toList = some x := by
  obtain ⟨d, read, same⟩ := read?_magnitude finite
  have signed := neg_ofUnpacked_abs finite
  rw [← same] at signed
  rw [toList_text finite]
  cases negative : isNegative x with
  | true => simpa [read?, splitSign, read, negative] using signed
  | false => simpa [read?, Decimal.splitSign_display, read, negative] using signed

/-- What the text of a double is made of: a sign, digits, and a point or an exponent. -/
theorem text_cases (finite : x.isFinite = true) :
    ∃ sign unit whole mark more, (text x).toList = sign ++ (whole ++ mark :: more) ∧
      SignText sign unit ∧ IsDigits whole ∧ (mark = '.' ∨ mark = 'e') ∧
      ∀ c ∈ more, Text.isBlank c = false := by
  obtain ⟨whole, mark, more, display, digits, marked, plain⟩ :=
    (Decimal.shortest x).display_cases
  rw [toList_text finite, display]
  split
  · exact ⟨['-'], _, _, _, _, rfl, .minus, digits, marked, plain⟩
  · exact ⟨[], _, _, _, _, rfl, .none, digits, marked, plain⟩

theorem not_isBlank_of_mem_text (finite : x.isFinite = true) :
    ∀ c ∈ (text x).toList, Text.isBlank c = false := by
  obtain ⟨sign, unit, whole, mark, more, parts, signed, digits, marked, plain⟩ := text_cases finite
  rw [parts]
  intro c mem
  rcases List.mem_append.1 mem with mem | mem
  · exact signed.not_isBlank c mem
  rcases List.mem_append.1 mem with mem | mem
  · exact Text.not_isBlank_of_isDigit (digits.2 c mem)
  rcases List.mem_cons.1 mem with rfl | mem
  · rcases marked with rfl | rfl <;> rfl
  · exact plain c mem

/-- The text of a double is not that of an integer. -/
theorem readInt?_text (finite : x.isFinite = true) : readInt? (text x).toList = none := by
  obtain ⟨_, _, whole, mark, more, parts, -, -, marked, -⟩ := text_cases finite
  have mem : mark ∈ (text x).toList := by simp [parts]
  refine Option.eq_none_iff_forall_ne_some.2 fun n read => ?_
  obtain ⟨sign, unit, digits, signed, all, same, -⟩ := readInt?_eq_some_iff.1 read
  rw [same] at mem
  rcases List.mem_append.1 mem with mem | mem
  · rcases marked with rfl | rfl <;> cases signed <;> simp at mem
  · have digit := all.2 mark mem
    rcases marked with rfl | rfl <;> simp at digit

end Double

end ExprScript
