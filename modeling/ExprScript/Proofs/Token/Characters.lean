import ExprScript.Token.Scan

/-!
# Classes of characters

White space, digits and the characters that start a name have nothing in common, so the first
character of a lexeme tells its kind.
-/

namespace ExprScript

namespace Text

/-- A statement about the characters of ASCII is checked one by one. -/
theorem ascii_induction {p : Char → Prop} (h : ∀ code < 128, p (Char.ofNat code)) {c : Char}
    (ascii : c.toNat < 128) : p c := by
  have := h c.toNat ascii
  rwa [Char.ofNat_toNat] at this

theorem isBlank_space : isBlank ' ' = true := rfl

theorem lt_of_isDigit {c : Char} (h : c.isDigit = true) : c.toNat < 128 := by
  simp only [Char.isDigit, ge_iff_le, Bool.and_eq_true, decide_eq_true_eq] at h
  have := UInt32.le_iff_toNat_le.1 h.2
  simp only [Char.toNat]
  exact Nat.lt_of_le_of_lt this (by decide)

theorem not_isBlank_of_isDigit {c : Char} (h : c.isDigit = true) : isBlank c = false :=
  ascii_induction (p := fun c => c.isDigit = true → isBlank c = false) (by decide)
    (lt_of_isDigit h) h

end Text

namespace Scan

theorem not_isNameStart_of_isDigit {c : Char} (h : c.isDigit = true) : isNameStart c = false :=
  Text.ascii_induction (p := fun c => c.isDigit = true → isNameStart c = false) (by decide)
    (Text.lt_of_isDigit h) h

/-- The white space above ASCII. -/
def highBlanks : List Nat :=
  [0x85, 0xA0, 0x1680, 0x2000, 0x2001, 0x2002, 0x2003, 0x2004, 0x2005, 0x2006, 0x2007, 0x2008,
   0x2009, 0x200A, 0x2028, 0x2029, 0x202F, 0x205F, 0x3000]

theorem mem_highBlanks {c : Char} (blank : Text.isBlank c = true) (high : ¬ c.toNat < 128) :
    c.toNat ∈ highBlanks := by
  simp only [Text.isBlank, Bool.or_eq_true, Bool.and_eq_true, decide_eq_true_eq,
    beq_iff_eq] at blank
  simp only [highBlanks, List.mem_cons, List.not_mem_nil, or_false]
  omega

theorem not_isBlank_of_isNameStart {c : Char} (h : isNameStart c = true) :
    Text.isBlank c = false := by
  by_cases ascii : c.toNat < 128
  · exact Text.ascii_induction (p := fun c => isNameStart c = true → Text.isBlank c = false)
      (by decide) ascii h
  · cases blank : Text.isBlank c with
    | false => rfl
    | true =>
      have none : ∀ code ∈ highBlanks, Text.alphabeticRanges.contains code = false := by
        decide +kernel
      have letter : isNameStart c = false := by
        have underscore : c ≠ '_' := by
          rintro rfl
          exact ascii (by decide)
        have dollar : c ≠ '$' := by
          rintro rfl
          exact ascii (by decide)
        simp [isNameStart, Text.isAlphabetic, ascii, none _ (mem_highBlanks blank ascii), underscore,
          dollar]
      simp [letter] at h

end Scan

end ExprScript
