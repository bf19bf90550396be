import Mathlib.Data.List.Induction
import ExprScript.Proofs.Token.Characters
import ExprScript.Text.Hexadecimal

/-!
# Hexadecimal digits of a number

Digits of either case are read as the number that is written with them: in lower case they are its
digits in base 16, with zeros in front up to their own number.
-/

namespace ExprScript.Text

variable {c : Char} {digits : List Char} {n v : Nat}

theorem not_le_of_high {last : Char} (low : last.toNat < 128) (high : ¬ c.toNat < 128) :
    ¬ c ≤ last := by
  intro le
  exact high (Nat.lt_of_le_of_lt (UInt32.le_iff_toNat_le.1 le) low)

theorem toLower_of_high (high : ¬ c.toNat < 128) : c.toLower = c := by
  have upper : ¬ c ≤ 'Z' := not_le_of_high (by decide) high
  exact dif_neg fun range => upper range.2

theorem hexValue?_of_high (high : ¬ c.toNat < 128) : hexValue? c = none := by
  have digit : ¬ c.isDigit = true := fun digit => high (lt_of_isDigit digit)
  have lower : ¬ c ≤ 'f' := not_le_of_high (by decide) high
  have upper : ¬ c ≤ 'F' := not_le_of_high (by decide) high
  simp [hexValue?, digit, lower, upper]

theorem toNat_digitChar_lt (small : v < 16) : v.digitChar.toNat < 128 := by
  revert v
  decide

/-- A character has a value as a digit when it is, in lower case, the digit of this value. -/
theorem hexValue?_eq_some_iff : hexValue? c = some v ↔ v < 16 ∧ c.toLower = v.digitChar := by
  by_cases ascii : c.toNat < 128
  · constructor
    · intro value
      have each : ∀ v ∈ hexValue? c, v < 16 ∧ c.toLower = v.digitChar :=
        ascii_induction (p := fun c => ∀ v ∈ hexValue? c, v < 16 ∧ c.toLower = v.digitChar)
          (by decide +kernel) ascii
      exact each v value
    · rintro ⟨small, same⟩
      exact ascii_induction
        (p := fun c => ∀ v < 16, c.toLower = v.digitChar → hexValue? c = some v)
        (by decide +kernel) ascii v small same
  · simp only [hexValue?_of_high ascii, toLower_of_high ascii, reduceCtorEq, false_iff]
    rintro ⟨small, rfl⟩
    exact ascii (toNat_digitChar_lt small)

theorem hexNumberFrom?_concat (start : Nat) (digits : List Char) (c : Char) :
    hexNumberFrom? start (digits ++ [c]) =
      (hexNumberFrom? start digits).bind fun front => (hexValue? c).map (16 * front + ·) := by
  induction digits generalizing start with
  | nil => cases value : hexValue? c <;> simp [hexNumberFrom?, value]
  | cons d digits ih => cases value : hexValue? d <;> simp [hexNumberFrom?, value, ih]

/-- The last digit of a number stands behind the digits of its sixteenth part. -/
theorem leftpad_toDigits (width n : Nat) :
    (Nat.toDigits 16 n).leftpad (width + 2) '0' =
      (Nat.toDigits 16 (n / 16)).leftpad (width + 1) '0' ++ [(n % 16).digitChar] := by
  by_cases small : n < 16
  · rw [Nat.toDigits_of_lt_base small, Nat.div_eq_of_lt small, Nat.mod_eq_of_lt small,
      Nat.toDigits_zero]
    simp [List.leftpad, List.replicate_succ']
  · rw [Nat.toDigits_of_base_le (by decide) (Nat.not_lt.1 small)]
    simp [List.leftpad]

/-- A number that is written with some digits, zeros in front included, has no more of its own. -/
theorem length_toDigits_le
    (written : digits.map Char.toLower = (Nat.toDigits 16 n).leftpad digits.length '0') :
    (Nat.toDigits 16 n).length ≤ digits.length := by
  have lengths := congrArg List.length written
  rw [List.length_map, List.length_leftpad] at lengths
  omega

/-- Digits write a number when they are, in lower case, its digits and zeros in front of them. -/
theorem hexNumberFrom?_eq_some_iff (filled : digits ≠ []) :
    hexNumberFrom? 0 digits = some n ↔
      digits.map Char.toLower = (Nat.toDigits 16 n).leftpad digits.length '0' := by
  induction digits using List.reverseRecOn generalizing n with
  | nil => exact absurd rfl filled
  | append_singleton digits c ih =>
    cases digits with
    | nil =>
      have alone : hexNumberFrom? 0 ([] ++ [c]) = hexValue? c := by
        rw [hexNumberFrom?_concat]
        simp [hexNumberFrom?]
      rw [alone, hexValue?_eq_some_iff]
      constructor
      · rintro ⟨small, same⟩
        simp [Nat.toDigits_of_lt_base small, List.leftpad, same]
      · intro written
        have short : (Nat.toDigits 16 n).length ≤ 1 := length_toDigits_le written
        have small : n < 16 := (Nat.length_toDigits_le_iff (by decide) (by decide)).1 short
        exact ⟨small, by simpa [Nat.toDigits_of_lt_base small, List.leftpad] using written⟩
    | cons d digits =>
      have width : (d :: digits ++ [c]).length = digits.length + 2 := by simp
      rw [hexNumberFrom?_concat, width, leftpad_toDigits, List.map_append, List.map_singleton,
        List.append_singleton_inj]
      constructor
      · intro read
        obtain ⟨m, front, last⟩ := Option.bind_eq_some_iff.1 read
        obtain ⟨v, value, rfl⟩ := Option.map_eq_some_iff.1 last
        obtain ⟨small, same⟩ := hexValue?_eq_some_iff.1 value
        have written := (ih (List.cons_ne_nil d digits)).1 front
        rw [Nat.mul_add_div (by decide), Nat.mul_add_mod, Nat.div_eq_of_lt small,
          Nat.mod_eq_of_lt small, Nat.add_zero]
        exact ⟨written, same⟩
      · rintro ⟨written, same⟩
        have front := (ih (List.cons_ne_nil d digits)).2 written
        have value := hexValue?_eq_some_iff.2 ⟨Nat.mod_lt n (by decide), same⟩
        rw [front, value, Option.bind_some, Option.map_some, Nat.div_add_mod]

/-- The character that digits write is the one with this code. -/
theorem hexCharacter?_eq_some_iff (filled : digits ≠ []) :
    hexCharacter? digits = some c ↔
      digits.map Char.toLower = (Nat.toDigits 16 c.toNat).leftpad digits.length '0' := by
  have nonempty : digits.isEmpty = false := by simpa using filled
  rw [← hexNumberFrom?_eq_some_iff filled, hexCharacter?, hexNumber?, nonempty, if_neg (by decide)]
  constructor
  · intro read
    cases number : hexNumberFrom? 0 digits with
    | none => simp [number] at read
    | some code =>
      simp only [number, Option.ite_none_right_eq_some, Option.some.injEq] at read
      obtain ⟨valid, rfl⟩ := read
      rw [Char.ofNat, dif_pos valid]
      rfl
  · intro number
    simp only [number, Char.ofNat_toNat]
    exact if_pos c.valid

end ExprScript.Text
