import ExprScript.Proofs.Host.Substrings
import ExprScript.Proofs.Text.Encoding

/-!
# Occurrences of a string in another

The members that search a string are told by one search, and so is what calls of `substring` and
`startsWith` say of a place. The search is of characters. It finds the same place that a search of
the bytes finds.
-/

namespace ExprScript

/-- `Told found n`: the integer tells what a search found, `-1` that it found nothing. -/
inductive Told : Option Nat → Int64 → Prop where
  | place {i : Nat} {n : Int64} : n.toInt = i → Told (some i) n
  | absent : Told none (-1)

namespace Told

variable {found : Option Nat} {n : Int64}

theorem elim_eq (told : Told found n) :
    found.elim (.integer (-1)) TextMember.count = .integer n := by
  cases told with
  | place place => exact TextMember.count_of_toInt place
  | absent => rfl

theorem isSome_eq (told : Told found n) : found.isSome = decide (0 ≤ n) := by
  cases told with
  | place place =>
    have nonneg : 0 ≤ n := by
      rw [Int64.le_iff_toInt_le, place]
      exact Int.natCast_nonneg _
    rw [Option.isSome_some, decide_eq_true nonneg]
  | absent => rfl

theorem eq_some_zero_iff (told : Told found n) : found = some 0 ↔ n = 0 := by
  cases told with
  | place place =>
    rw [Option.some.injEq, ← Int64.toInt_inj, place]
    exact Int.natCast_eq_zero.symm
  | absent => decide

/-- A place is never told as nothing. -/
theorem ne_of_place {i : Nat} (place : n.toInt = i) : n ≠ -1 := by
  rintro rfl
  exact absurd place (by simp)

end Told

/-- `text.BeginsAt part i`: what calls give behind the place begins with the part, as calls tell. -/
def Value.BeginsAt (text part : Value) (i : Int64) : Prop :=
  ∃ rest, text.Answers "substring" [.integer i] (.ok rest) ∧
    rest.Answers "startsWith" [part] (.ok (.boolean true))

namespace Value

variable {s t : String} {L T n : Int64}

/-! ### What the members give -/

theorem contains_answers (s t : String) : (string s).Answers "contains" [.string t]
    (.ok (.boolean (Text.find? t.toList s.toList).isSome)) :=
  TextMember.contains.answers_ok (.cons rfl .nil) rfl

theorem startsWith_answers (s t : String) : (string s).Answers "startsWith" [.string t]
    (.ok (.boolean (t.toList.isPrefixOf s.toList))) :=
  TextMember.startsWith.answers_ok (.cons rfl .nil) rfl

theorem endsWith_answers (s t : String) : (string s).Answers "endsWith" [.string t]
    (.ok (.boolean (t.toList.isSuffixOf s.toList))) :=
  TextMember.endsWith.answers_ok (.cons rfl .nil) rfl

theorem replace_answers (s t u : String) : (string s).Answers "replace" [.string t, .string u]
    (.ok (.string (String.ofList (Text.replace t.toList u.toList s.toList)))) :=
  TextMember.replace.answers_ok (.cons rfl (.cons rfl .nil)) rfl

theorem indexOf_of_told (told : Told (Text.find? t.toList s.toList) n) :
    (string s).Answers "indexOf" [.string t] (.ok (.integer n)) := by
  refine TextMember.indexOf.answers_ok (.cons rfl .nil) ?_
  have argument : textArgument [.string t] 0 = .ok t.toList := rfl
  rw [← told.elim_eq]
  simp only [TextMember.run, argument, bind, Except.bind]
  cases Text.find? t.toList s.toList with
  | none => rfl
  | some i => rfl

theorem isPrefixOf_of_told (told : Told (Text.find? t.toList s.toList) n) :
    t.toList.isPrefixOf s.toList = decide (n = 0) := by
  rw [Bool.eq_iff_iff, List.isPrefixOf_iff_prefix, decide_eq_true_iff, ← told.eq_some_zero_iff,
    Text.find?_eq_zero_iff]

/-! ### Places -/

section Places

variable (counted : L.toInt = s.toList.length)

include counted

theorem beginsAt_iff {i : Int64} : (string s).BeginsAt (string t) i ↔
    0 ≤ i.toInt ∧ i.toInt ≤ s.toList.length ∧ t.toList <+: s.toList.drop i.toInt.toNat := by
  constructor
  · rintro ⟨rest, answers, begins⟩
    obtain ⟨low, high, rfl⟩ := (substringFrom_answers_ok_iff counted).1 answers
    have same := Value.boolean.inj (Except.ok.inj (begins.eq (startsWith_answers _ t)))
    rw [String.toList_ofList] at same
    exact ⟨low, high, List.isPrefixOf_iff_prefix.1 same.symm⟩
  · rintro ⟨low, high, front⟩
    refine ⟨_, (substringFrom_answers_ok_iff counted).2 ⟨low, high, rfl⟩, ?_⟩
    have begins := startsWith_answers (String.ofList (s.toList.drop i.toInt.toNat)) t
    rwa [String.toList_ofList, List.isPrefixOf_iff_prefix.2 front] at begins

/-- What the search finds is told by some integer, as every place in the string is one. -/
theorem exists_told (t : String) : ∃ n, Told (Text.find? t.toList s.toList) n := by
  cases found : Text.find? t.toList s.toList with
  | none => exact ⟨_, .absent⟩
  | some i =>
    have inside := Text.le_length_of_find? found
    have high := Int64.toInt_lt L
    exact ⟨Int64.ofNat i, .place (Int64.toInt_ofNat_of_lt (by omega))⟩

/-- The place that is told is the least at which calls find the part, and the first one among the
bytes. -/
theorem place_of_told (told : Told (Text.find? t.toList s.toList) n) :
    if n = -1 then
      (∀ i, ¬ (string s).BeginsAt (string t) i) ∧
        ∀ place, ¬ Text.utf8 t.toList <+: (Text.utf8 s.toList).drop place
    else
      ((string s).BeginsAt (string t) n ∧ ∀ i, (string s).BeginsAt (string t) i → n ≤ i) ∧
        Text.FirstAt (Text.utf8 t.toList) (Text.utf8 s.toList)
          (bytes (s.toList.take n.toInt.toNat)) := by
  rcases Text.find?_cases t.toList s.toList with ⟨i, found, first⟩ | ⟨nothing, absent⟩
  · have inside := Text.le_length_of_find? found
    rw [found] at told
    obtain ⟨place⟩ := told
    rw [if_neg (Told.ne_of_place place), place, Int.toNat_natCast]
    refine ⟨⟨(beginsAt_iff counted).2 ?_, fun j begins => ?_⟩, first.utf8⟩
    · rw [place, Int.toNat_natCast]
      exact ⟨by omega, by omega, first.1⟩
    · obtain ⟨low, -, front⟩ := (beginsAt_iff counted).1 begins
      have behind : i ≤ j.toInt.toNat := Nat.le_of_not_lt fun before => first.2 _ before front
      rw [Int64.le_iff_toInt_le]
      omega
  · rw [nothing] at told
    obtain ⟨⟩ := told
    rw [if_pos rfl]
    exact ⟨fun i begins => absent _ ((beginsAt_iff counted).1 begins).2.2,
      Text.absent_utf8 absent⟩

/-- A string ends with another just if its last characters, as many as the other has, are the
other. -/
theorem suffix_iff_substring (counted' : T.toInt = t.toList.length) :
    t.toList <:+ s.toList ↔ T ≤ L ∧ ∃ tail,
      (string s).Answers "substring" [.integer (L - T)] (.ok tail) ∧
        ∀ strict, BinaryOp.equal.apply strict tail (.string t) = .ok (.boolean true) := by
  have nonneg : (0 : Int64) ≤ T := by
    rw [Int64.le_iff_toInt_le, counted']
    exact Int.natCast_nonneg _
  have start (within : T ≤ L) :
      (L - T).toInt = ((s.toList.length - t.toList.length : Nat) : Int) := by
    rw [Int64.toInt_sub_of_le L T nonneg within, counted, counted']
    rw [Int64.le_iff_toInt_le, counted, counted'] at within
    omega
  rw [List.suffix_iff_eq_drop]
  constructor
  · intro suffix
    -- A natural difference is cut off at zero, so the lengths have to be told apart first.
    have within : T ≤ L := by
      have long := congrArg List.length suffix
      rw [List.length_drop] at long
      rw [Int64.le_iff_toInt_le, counted, counted']
      omega
    refine ⟨within, .string t, (substringFrom_answers_ok_iff counted).2 ?_, fun strict => ?_⟩
    · rw [start within, Int.toNat_natCast, ← suffix, String.ofList_toList]
      exact ⟨by omega, by omega, rfl⟩
    · rw [equal_strings, beq_self_eq_true]
  · rintro ⟨within, tail, answers, same⟩
    obtain ⟨-, -, rfl⟩ := (substringFrom_answers_ok_iff counted).1 answers
    have same := same true
    rw [equal_strings, start within, Int.toNat_natCast, Except.ok.injEq, Value.boolean.injEq,
      beq_iff_eq] at same
    have characters := congrArg String.toList same
    rw [String.toList_ofList] at characters
    exact characters.symm

end Places

theorem replace_of_absent (nonempty : t ≠ "")
    (absent : (string s).Answers "contains" [.string t] (.ok (.boolean false))) (u : String) :
    (string s).Answers "replace" [.string t, .string u] (.ok (.string s)) := by
  have told : false = (Text.find? t.toList s.toList).isSome :=
    Value.boolean.inj (Except.ok.inj (absent.eq (contains_answers s t)))
  have nothing : Text.find? t.toList s.toList = none :=
    Option.not_isSome_iff_eq_none.1 (ne_true_of_eq_false told.symm)
  have nonempty : t.toList ≠ [] := mt String.toList_eq_nil_iff.1 nonempty
  have given := replace_answers s t u
  rwa [Text.replace_of_find?_eq_none nonempty nothing, String.ofList_toList] at given

end Value

/-- The members that search a string tell one search. The index is the least place behind which the
string begins with the part, in characters as the first place among the bytes is in bytes, and is
`-1` without a place. The string contains the part just if the index is not negative, begins with it
just if the index is zero, and ends with it just if the substring of its length at the end is the
part. Replacing a part without a place leaves the string. -/
theorem search_members_agree (s t : String) {L T : Int64} (counted : L.toInt = s.toList.length)
    (counted' : T.toInt = t.toList.length) :
    let text : Value := .string s
    let part : Value := .string t
    (text.Answers "length" [] (.ok (.integer L)) ∧ part.Answers "length" [] (.ok (.integer T))) ∧
    (∃ n : Int64, text.Answers "indexOf" [part] (.ok (.integer n)) ∧
      (if n = -1 then
        (∀ i, ¬ text.BeginsAt part i) ∧
          ∀ place, ¬ Text.utf8 t.toList <+: (Text.utf8 s.toList).drop place
      else
        (text.BeginsAt part n ∧ ∀ i, text.BeginsAt part i → n ≤ i) ∧
          Text.FirstAt (Text.utf8 t.toList) (Text.utf8 s.toList)
            (bytes (s.toList.take n.toInt.toNat))) ∧
      text.Answers "contains" [part] (.ok (.boolean (decide (0 ≤ n)))) ∧
      text.Answers "startsWith" [part] (.ok (.boolean (decide (n = 0))))) ∧
    (∃ ends : Bool, text.Answers "endsWith" [part] (.ok (.boolean ends)) ∧
      (ends = true ↔ t.toList <:+ s.toList) ∧
      (ends = true ↔ T ≤ L ∧ ∃ tail,
        text.Answers "substring" [.integer (L - T)] (.ok tail) ∧
          ∀ strict, BinaryOp.equal.apply strict tail part = .ok (.boolean true))) ∧
    (t ≠ "" → text.Answers "contains" [part] (.ok (.boolean false)) → ∀ u : String, ∃ kept,
      text.Answers "replace" [part, .string u] (.ok kept) ∧
        ∀ strict, BinaryOp.equal.apply strict kept text = .ok (.boolean true)) := by
  intro text part
  refine ⟨⟨Value.length_answers counted, Value.length_answers counted'⟩, ?_, ?_, ?_⟩
  · obtain ⟨n, told⟩ := Value.exists_told counted t
    refine ⟨n, Value.indexOf_of_told told, Value.place_of_told counted told, ?_, ?_⟩
    · rw [← told.isSome_eq]
      exact Value.contains_answers s t
    · rw [← Value.isPrefixOf_of_told told]
      exact Value.startsWith_answers s t
  · have suffix : t.toList.isSuffixOf s.toList = true ↔ t.toList <:+ s.toList :=
      List.isSuffixOf_iff_suffix
    exact ⟨_, Value.endsWith_answers s t, suffix,
      suffix.trans (Value.suffix_iff_substring counted counted')⟩
  · intro nonempty absent u
    refine ⟨text, Value.replace_of_absent nonempty absent u, fun strict => ?_⟩
    rw [Value.equal_strings, beq_self_eq_true]

/-- Two characters that stand in a string, but not together, are no part of it. -/
theorem search_members_agree_apart :
    let text : Value := .string "ünün"
    let part : Value := .string "üü"
    ((4 : Int64).toInt = "ünün".toList.length ∧ (2 : Int64).toInt = "üü".toList.length) ∧
      "üü" ≠ "" ∧ text.Answers "contains" [part] (.ok (.boolean false)) ∧
      (∃ n, text.Answers "indexOf" [part] (.ok (.integer n)) ∧ ¬ 0 ≤ n) ∧
      ∃ kept, text.Answers "replace" [part, .string "n"] (.ok kept) ∧
        ∀ strict, BinaryOp.equal.apply strict kept text = .ok (.boolean true) := by
  have counted : (4 : Int64).toInt = "ünün".toList.length := by decide
  have counted' : (2 : Int64).toInt = "üü".toList.length := by decide
  have apart : (Text.find? "üü".toList "ünün".toList).isSome = false := by decide
  have absent := Value.contains_answers "ünün" "üü"
  rw [apart] at absent
  obtain ⟨-, ⟨n, index, -, contains, -⟩, -, replaced⟩ :=
    search_members_agree "ünün" "üü" counted counted'
  have told := Value.boolean.inj (Except.ok.inj (contains.eq absent))
  exact ⟨⟨counted, counted'⟩, by decide, absent, ⟨n, index, of_decide_eq_false told⟩,
    replaced (by decide) absent "n"⟩

end ExprScript
