import ExprScript.Decimal.Layout
import ExprScript.Decimal.Reading
import ExprScript.Proofs.Decimal.Value
import ExprScript.Proofs.Eval.Numerals

/-!
# Written decimals

A decimal is displayed with its digits on both sides of a point, or with a power of ten behind them.
Either way what is displayed is read back as the decimal.
-/

namespace ExprScript

theorem readInt?_digits (n : Int) : readInt? (Integer.digits n) = some n := by
  have digits := isDigits_toDigits n.natAbs
  rw [readInt?_eq_some_iff, Integer.digits]
  split
  · exact ⟨['-'], -1, _, .minus, digits, rfl, by rw [Nat.ofDigitChars_ten_toDigits]; omega⟩
  · exact ⟨[], 1, _, .none, digits, rfl, by rw [Nat.ofDigitChars_ten_toDigits]; omega⟩

namespace Decimal

variable {whole fraction rest : List Char} {e : Int}

/-! ### Reading -/

/-- Digits end where something else begins. -/
theorem takeWhile_isDigit (all : ∀ c ∈ whole, c.isDigit = true)
    (ends : ∀ c ∈ rest.head?, c.isDigit = false) :
    (whole ++ rest).takeWhile Char.isDigit = whole ∧
      (whole ++ rest).dropWhile Char.isDigit = rest := by
  rw [List.takeWhile_append_of_pos all, List.dropWhile_append_of_pos all]
  cases rest with
  | nil => simp
  | cons c more => simp_all

/-- What may follow the digits of a number. -/
theorem readExponent?_cases (read : readExponent? rest = some e) :
    rest = [] ∨ ∃ more, rest = 'e' :: more ∨ rest = 'E' :: more := by
  fun_cases readExponent? rest with
  | case1 => exact .inl rfl
  | case2 mark rest marked => rcases marked with rfl | rfl <;> simp
  | case3 mark rest other => simp [readExponent?, other] at read

theorem not_isDigit_of_readExponent? (read : readExponent? rest = some e) :
    ∀ c ∈ rest.head?, c.isDigit = false := by
  rcases readExponent?_cases read with rfl | ⟨more, rfl | rfl⟩ <;> simp

theorem read?_whole (digits : IsDigits whole) (read : readExponent? rest = some e) :
    read? (whole ++ rest) = some (ofDigits whole e) := by
  obtain ⟨taken, dropped⟩ := takeWhile_isDigit digits.2 (not_isDigit_of_readExponent? read)
  unfold read?
  simp only [taken, dropped]
  rcases readExponent?_cases read with rfl | ⟨more, rfl | rfl⟩ <;> simp [digits.1, read]

theorem read?_pointed (digits : IsDigits whole) (digits' : ∀ c ∈ fraction, c.isDigit = true)
    (read : readExponent? rest = some e) :
    read? (whole ++ '.' :: (fraction ++ rest)) =
      some (ofDigits (whole ++ fraction) (e - fraction.length)) := by
  have point : ∀ c ∈ ('.' :: (fraction ++ rest)).head?, c.isDigit = false := by simp
  obtain ⟨taken, dropped⟩ := takeWhile_isDigit digits.2 point
  obtain ⟨taken', dropped'⟩ := takeWhile_isDigit digits' (not_isDigit_of_readExponent? read)
  simp [read?, taken, dropped, taken', dropped', digits.1, read]

/-- A number that is written in digits is read as its decimal. -/
theorem Normal.ofDigits_eq {d : Decimal} (h : d.Normal) (all : ∀ c ∈ whole, c.isDigit = true)
    (same : (Nat.ofDigitChars 10 whole 0 * 10 ^ e : ℚ) = d.value) : ofDigits whole e = d := by
  refine eq_of_value (normal_ofDigits all ?_ e) h ((value_ofDigits whole e).trans same)
  rintro zero
  have positive : (0 : ℚ) < d.value := by
    have := h.pos
    unfold value
    positivity
  simp [← same, zero] at positive

/-! ### Display -/

variable {d : Decimal}

theorem isDigits_digits (d : Decimal) : IsDigits d.digits := isDigits_toDigits _

theorem isDigits_wholeDigits (d : Decimal) : IsDigits d.wholeDigits := by
  unfold wholeDigits
  split
  · exact ⟨by simp, by simp⟩
  · rename_i some
    refine ⟨?_, fun c mem => ?_⟩
    · have nonempty := List.length_pos_iff.2 d.isDigits_digits.1
      rw [← List.length_pos_iff]
      simp
      omega
    · rcases List.mem_append.1 mem with mem | mem
      · exact d.isDigits_digits.2 c (List.mem_of_mem_take mem)
      · rw [List.eq_of_mem_replicate mem]
        rfl

theorem isDigit_fractionDigits (d : Decimal) : ∀ c ∈ d.fractionDigits, c.isDigit = true := by
  intro c mem
  rcases List.mem_append.1 mem with mem | mem
  · rw [List.eq_of_mem_replicate mem]
    rfl
  · exact d.isDigits_digits.2 c (List.mem_of_mem_drop mem)

theorem ofDigitChars_digits (d : Decimal) : Nat.ofDigitChars 10 d.digits 0 = d.coefficient :=
  Nat.ofDigitChars_ten_toDigits

/-- The digits on both sides of the point are those of the decimal, with zeros around them. -/
theorem value_positional (d : Decimal) :
    (Nat.ofDigitChars 10 (d.wholeDigits ++ d.fractionDigits) 0 : ℚ) *
      10 ^ (-d.fractionDigits.length : Int) = d.value := by
  have place : d.pointAt = d.digits.length + d.exponent := rfl
  rcases Int.lt_or_le 0 d.pointAt with above | below
  -- The point stands among the digits or behind them, with zeros in between.
  · have whole : d.wholeDigits = d.digits.take d.pointAt.toNat ++
        List.replicate (d.pointAt.toNat - d.digits.length) '0' := if_neg (by omega)
    have fraction : d.fractionDigits = d.digits.drop d.pointAt.toNat := by
      rw [fractionDigits, Int.toNat_of_nonpos (by omega), List.replicate_zero, List.nil_append]
    have together : d.wholeDigits ++ d.fractionDigits =
        d.digits ++ List.replicate (d.pointAt.toNat - d.digits.length) '0' := by
      rw [whole, fraction]
      rcases Nat.le_total d.digits.length d.pointAt.toNat with long | short
      · rw [List.take_of_length_le long, List.drop_of_length_le long, List.append_nil]
      · rw [Nat.sub_eq_zero_of_le short, List.replicate_zero, List.append_nil, List.append_nil,
          List.take_append_drop]
    have exponent : d.exponent = ((d.pointAt.toNat - d.digits.length : Nat) : Int) +
        -d.fractionDigits.length := by
      rw [fraction, List.length_drop]
      omega
    rw [together, Nat.ofDigitChars_append, Nat.ofDigitChars_replicate_zero, ofDigitChars_digits,
      value, exponent, zpow_add₀ (by norm_num), zpow_natCast]
    push_cast
    ring
  -- It stands in front of them, behind one zero at least.
  · have zeros : '0' :: List.replicate (-d.pointAt).toNat '0' =
        List.replicate ((-d.pointAt).toNat + 1) '0' := rfl
    have whole : d.wholeDigits = ['0'] := if_pos below
    have fraction : d.fractionDigits = List.replicate (-d.pointAt).toNat '0' ++ d.digits := by
      rw [fractionDigits, Int.toNat_of_nonpos below, List.drop_zero]
    have exponent : (-d.fractionDigits.length : Int) = d.exponent := by
      rw [fraction, List.length_append, List.length_replicate]
      omega
    rw [exponent, whole, fraction, List.singleton_append, ← List.cons_append, zeros,
      Nat.ofDigitChars_append, Nat.ofDigitChars_replicate_zero, mul_zero, ofDigitChars_digits, value]

theorem read?_pointed_display (h : d.Normal) : read? d.pointed = some d := by
  have digits := d.isDigit_fractionDigits
  have value := d.value_positional
  have all (fraction : List Char) (digits : ∀ c ∈ fraction, c.isDigit = true) :
      ∀ c ∈ d.wholeDigits ++ fraction, c.isDigit = true := by
    intro c mem
    rcases List.mem_append.1 mem with mem | mem
    · exact d.isDigits_wholeDigits.2 c mem
    · exact digits c mem
  unfold pointed
  split
  · rename_i none
    have zero : ∀ c ∈ ['0'], c.isDigit = true := by simp
    rw [none, List.append_nil, List.length_nil] at value
    rw [← List.append_nil ['.', '0']]
    refine (read?_pointed d.isDigits_wholeDigits zero rfl).trans (congrArg _ ?_)
    refine h.ofDigits_eq (all _ zero) ?_
    rw [← value, Nat.ofDigitChars_append, Nat.ofDigitChars_cons]
    norm_num
    ring
  · rw [← List.append_nil d.fractionDigits]
    refine (read?_pointed d.isDigits_wholeDigits digits rfl).trans (congrArg _ ?_)
    refine h.ofDigits_eq (all _ digits) ?_
    rw [← value, Int.zero_sub]

theorem read?_scientific (h : d.Normal) : read? d.scientific = some d := by
  have read : readExponent? ('e' :: Integer.digits (d.pointAt - 1)) = some (d.pointAt - 1) :=
    readInt?_digits _
  have value := d.ofDigitChars_digits
  have ⟨nonempty, all⟩ := d.isDigits_digits
  have place : d.pointAt = d.digits.length + d.exponent := rfl
  unfold scientific
  generalize d.digits = digits at nonempty value all place
  match digits with
  | [] => exact absurd rfl nonempty
  | [lead] =>
    refine (read?_whole ⟨nonempty, all⟩ read).trans (congrArg _ ?_)
    refine h.ofDigits_eq all ?_
    rw [value, Decimal.value, place]
    simp
  | lead :: next :: others =>
    have exponent : d.pointAt - 1 - ((next :: others).length : Int) = d.exponent := by
      rw [place, List.length_cons (a := lead)]
      omega
    have first : IsDigits [lead] := ⟨by simp, fun c mem => all c (by simp_all)⟩
    have rest : ∀ c ∈ next :: others, c.isDigit = true := fun c mem => all c (.tail _ mem)
    refine (read?_pointed first rest read).trans (congrArg _ ?_)
    refine h.ofDigits_eq all ?_
    rw [List.singleton_append, value, exponent, Decimal.value]

theorem read?_display (h : d.Normal) : read? d.display = some d := by
  unfold display
  split
  · exact read?_pointed_display h
  · exact read?_scientific h

theorem not_isBlank_digits (n : Int) : ∀ c ∈ Integer.digits n, Text.isBlank c = false := by
  have plain : ∀ c ∈ Nat.toDigits 10 n.natAbs, Text.isBlank c = false :=
    fun c mem => Text.not_isBlank_of_isDigit ((isDigits_toDigits _).2 c mem)
  unfold Integer.digits
  split
  · simpa using ⟨by rfl, plain⟩
  · exact plain

/-- What is displayed begins with digits, which a point or an exponent follows. -/
theorem display_cases (d : Decimal) :
    ∃ whole mark more, d.display = whole ++ mark :: more ∧ IsDigits whole ∧
      (mark = '.' ∨ mark = 'e') ∧ ∀ c ∈ more, Text.isBlank c = false := by
  have plain {digits : List Char} (all : ∀ c ∈ digits, c.isDigit = true) :
      ∀ c ∈ digits, Text.isBlank c = false :=
    fun c mem => Text.not_isBlank_of_isDigit (all c mem)
  unfold display
  split
  · unfold pointed
    split
    · exact ⟨_, _, _, rfl, d.isDigits_wholeDigits, .inl rfl, plain (by simp)⟩
    · exact ⟨_, _, _, rfl, d.isDigits_wholeDigits, .inl rfl, plain d.isDigit_fractionDigits⟩
  · have ⟨nonempty, all⟩ := d.isDigits_digits
    have power := not_isBlank_digits (d.pointAt - 1)
    unfold scientific
    match d.digits, nonempty, all with
    | [], nonempty, _ => exact absurd rfl nonempty
    | [lead], _, all => exact ⟨[lead], _, _, rfl, ⟨by simp, all⟩, .inr rfl, power⟩
    | lead :: next :: others, _, all =>
      have first : IsDigits [lead] := ⟨by simp, fun c mem => all c (by simp_all)⟩
      refine ⟨[lead], _, _, rfl, first, .inl rfl, fun c mem => ?_⟩
      rcases List.mem_append.1 mem with mem | mem
      · exact plain all c (.tail _ mem)
      · rcases List.mem_cons.1 mem with rfl | mem
        · rfl
        · exact power c mem

/-- What is displayed has no sign. -/
theorem splitSign_display (d : Decimal) : splitSign d.display = (false, d.display) := by
  obtain ⟨whole, mark, more, display, digits, -⟩ := d.display_cases
  obtain ⟨c, others, rfl, digit⟩ := digits.starts
  rw [display]
  exact splitSign_of_isDigit digit _

end Decimal

end ExprScript
