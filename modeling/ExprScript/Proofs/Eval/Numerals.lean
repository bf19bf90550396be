import ExprScript.Eval.Number
import ExprScript.Proofs.Token.Scanning

/-!
# Numerals

The texts that denote integers: decimal digits with an optional sign, and white space around. The
main statement is that these are the strings which take part in arithmetic as integers, so a string
is an integer operand exactly when it is written as one.
-/

namespace ExprScript

namespace Text

variable {front text back : List Char}

theorem dropWhile_padded (blank : ∀ c ∈ front, isBlank c = true)
    (plain : ∀ c ∈ text, isBlank c = false) (nonempty : text ≠ []) :
    (front ++ text ++ back).dropWhile isBlank = text ++ back := by
  obtain ⟨c, more, rfl⟩ := List.exists_cons_of_ne_nil nonempty
  have first : isBlank c = false := plain c (by simp)
  rw [List.append_assoc, List.dropWhile_append_of_pos blank, List.cons_append,
    List.dropWhile_cons_of_neg (by simp [first])]

/-- White space around a text is trimmed away. -/
theorem trim_padded (blank : ∀ c ∈ front, isBlank c = true)
    (blank' : ∀ c ∈ back, isBlank c = true) (plain : ∀ c ∈ text, isBlank c = false)
    (nonempty : text ≠ []) : trim (front ++ text ++ back) = text := by
  have backward : (back.reverse ++ text.reverse ++ []).dropWhile isBlank = text.reverse ++ [] :=
    dropWhile_padded (by simpa using blank') (by simpa using plain) (by simpa using nonempty)
  rw [trim, dropWhile_padded blank plain nonempty, List.reverse_append,
    ← List.append_nil (back.reverse ++ text.reverse), backward, List.append_nil,
    List.reverse_reverse]

/-- A text is what is trimmed of it, with white space around. -/
theorem exists_trim (text : List Char) :
    ∃ front back, (∀ c ∈ front, isBlank c = true) ∧ (∀ c ∈ back, isBlank c = true) ∧
      text = front ++ trim text ++ back := by
  have blank (s : List Char) : ∀ c ∈ s.takeWhile isBlank, isBlank c = true :=
    List.all_eq_true.1 List.all_takeWhile
  refine ⟨text.takeWhile isBlank, ((text.dropWhile isBlank).reverse.takeWhile isBlank).reverse,
    blank _, fun c mem => blank _ c (List.mem_reverse.1 mem), ?_⟩
  have behind : trim text ++ ((text.dropWhile isBlank).reverse.takeWhile isBlank).reverse =
      text.dropWhile isBlank := by
    rw [trim, ← List.reverse_append, List.takeWhile_append_dropWhile, List.reverse_reverse]
  rw [List.append_assoc, behind, List.takeWhile_append_dropWhile]

end Text

/-- The signs that may stand in front of digits, with the units they stand for. -/
inductive SignText : List Char → Int → Prop where
  | none : SignText [] 1
  | plus : SignText ['+'] 1
  | minus : SignText ['-'] (-1)

/-- `Numeral text n`: the text is the integer `n` in decimal digits, with a sign or none in front of
them and any white space around. -/
inductive Numeral : List Char → Int → Prop where
  | mk {front sign digits back : List Char} {unit : Int}
      (blank : ∀ c ∈ front, Text.isBlank c = true) (signed : SignText sign unit)
      (all : IsDigits digits) (blank' : ∀ c ∈ back, Text.isBlank c = true) :
      Numeral (front ++ (sign ++ digits) ++ back) (unit * Nat.ofDigitChars 10 digits 0)

theorem SignText.not_isBlank {sign : List Char} {unit : Int} (h : SignText sign unit) :
    ∀ c ∈ sign, Text.isBlank c = false := by
  cases h with
  | none => simp
  | plus | minus =>
    intro c mem
    rw [List.mem_singleton.1 mem]
    rfl

/-! ### Reading numerals -/

theorem readDigits?_eq_some_iff {text : List Char} {n : Nat} :
    readDigits? text = some n ↔ IsDigits text ∧ Nat.ofDigitChars 10 text 0 = n := by
  simp [readDigits?, IsDigits]

theorem splitSign_cases (text : List Char) : ∃ sign negative digits,
    splitSign text = (negative, digits) ∧ text = sign ++ digits ∧
      SignText sign (if negative then -1 else 1) := by
  unfold splitSign
  split
  · exact ⟨['-'], true, _, rfl, rfl, .minus⟩
  · exact ⟨['+'], false, _, rfl, rfl, .plus⟩
  · exact ⟨[], false, _, rfl, rfl, .none⟩

theorem readInt?_eq_some_iff {text : List Char} {n : Int} :
    readInt? text = some n ↔ ∃ sign unit digits, SignText sign unit ∧ IsDigits digits ∧
      text = sign ++ digits ∧ unit * Nat.ofDigitChars 10 digits 0 = n := by
  constructor
  · intro read
    obtain ⟨sign, negative, digits, split, rfl, signed⟩ := splitSign_cases text
    rw [readInt?, split] at read
    cases found : readDigits? digits with
    | none => simp [found] at read
    | some m =>
      obtain ⟨all, rfl⟩ := readDigits?_eq_some_iff.1 found
      refine ⟨sign, _, digits, signed, all, rfl, ?_⟩
      cases negative <;> simpa [found] using read
  · rintro ⟨sign, unit, digits, signed, all, rfl, rfl⟩
    have read : readDigits? digits = some (Nat.ofDigitChars 10 digits 0) :=
      readDigits?_eq_some_iff.2 ⟨all, rfl⟩
    cases signed with
    | none => simpa using all.readInt?_eq
    | plus | minus => simp [readInt?, splitSign, read]

theorem numeral_iff {text : List Char} {n : Int} :
    Numeral text n ↔ readInt? (Text.trim text) = some n := by
  constructor
  · rintro ⟨blank, signed, all, blank'⟩
    rw [Text.trim_padded blank blank', readInt?_eq_some_iff]
    · exact ⟨_, _, _, signed, all, rfl, rfl⟩
    · intro c mem
      rcases List.mem_append.1 mem with mem | mem
      · exact signed.not_isBlank c mem
      · exact Text.not_isBlank_of_isDigit (all.2 c mem)
    · simp [all.1]
  · intro read
    obtain ⟨front, back, blank, blank', whole⟩ := Text.exists_trim text
    obtain ⟨sign, unit, digits, signed, all, same, rfl⟩ := readInt?_eq_some_iff.1 read
    rw [whole, same]
    exact .mk blank signed all blank'

theorem Number.read?_eq_int_iff {text : List Char} {w : Int64} :
    Number.read? text = some (.int w) ↔ Numeral text w.toInt := by
  have read : Integer.read? (Text.trim text) = some w ↔ Numeral text w.toInt := by
    rw [numeral_iff, Integer.read?, Option.bind_eq_some_iff]
    simp [Integer.fit?_eq_some_iff]
  rw [← read, Number.read?]
  cases Integer.read? (Text.trim text) <;> simp

/-! ### Integer operands -/

/-- `v.Denotes strict n`: as an operand the value is the integer `n`. -/
inductive Value.Denotes : Value → Bool → Int64 → Prop where
  | integer (strict : Bool) (n : Int64) : Denotes (.integer n) strict n
  | numeral (strict : Bool) {text : String} {n : Int64} (written : Numeral text.toList n.toInt) :
      Denotes (.string text) strict n
  | null : Denotes .null false 0

theorem Value.operand_eq_int_iff {strict : Bool} {v : Value} {n : Int64} :
    v.operand strict = .ok (some (.int n)) ↔ v.Denotes strict n := by
  constructor
  · intro same
    cases v with
    | null =>
      cases strict with
      | true => cases same
      | false =>
        obtain rfl : 0 = n := by simpa [operand] using same
        exact .null
    | integer m =>
      obtain rfl : m = n := by simpa [operand, number?] using same
      exact .integer strict m
    | string text =>
      exact .numeral strict (Number.read?_eq_int_iff.1 (by simpa [operand, number?] using same))
    | float => simp [operand, number?] at same
    | boolean | object => cases same
  · intro denotes
    cases denotes with
    | integer | null => rfl
    | numeral _ written => simp [operand, number?, Number.read?_eq_int_iff.2 written]

end ExprScript
