import ExprScript.Eval.Arithmetic
import ExprScript.Proofs.Host.TextCalls

/-!
# Parts of strings

A substring is given by two places, and a character by one. The members check their places apart, in
integers of both signs. They agree because the places that either admits are those of a part of the
string, and the part is what is given.
-/

namespace ExprScript

/-! ### Places in a text -/

/-- `text.Between first last part`: the part begins behind `first` characters of the text and ends
behind `last` ones. -/
def Text.Between (text : List Char) (first last : Int) (part : List Char) : Prop :=
  ∃ front back, text = front ++ part ++ back ∧ (front.length : Int) = first ∧
    ((front ++ part).length : Int) = last

namespace Text

variable {text part part' : List Char} {first last : Int}

theorem Between.inside (h : Between text first last part) :
    0 ≤ first ∧ first ≤ last ∧ last ≤ text.length := by
  obtain ⟨front, back, rfl, rfl, rfl⟩ := h
  simp only [List.length_append]
  omega

theorem exists_between (inside : 0 ≤ first ∧ first ≤ last ∧ last ≤ text.length) :
    ∃ part, Between text first last part := by
  obtain ⟨nonneg, order, within⟩ := inside
  obtain ⟨i, rfl⟩ := Int.eq_ofNat_of_zero_le nonneg
  obtain ⟨j, rfl⟩ := Int.eq_ofNat_of_zero_le (Int.le_trans nonneg order)
  refine ⟨(text.drop i).take (j - i), text.take i, text.drop j, ?_, ?_, ?_⟩
  · have later : text.drop j = (text.drop i).drop (j - i) := by
      rw [List.drop_drop]
      congr 1
      omega
    rw [later, List.append_assoc, List.take_append_drop, List.take_append_drop]
  · rw [List.length_take]
    omega
  · rw [List.length_append, List.length_take, List.length_take, List.length_drop]
    omega

/-- A part is what stands between its places. -/
theorem Between.eq_take_drop (h : Between text first last part) :
    part = (text.drop first.toNat).take (last - first).toNat := by
  obtain ⟨front, back, rfl, rfl, rfl⟩ := h
  have long : (((front ++ part).length : Int) - front.length).toNat = part.length := by
    rw [List.length_append]
    omega
  rw [long, Int.toNat_natCast, List.append_assoc, List.drop_left, List.take_left]

theorem Between.eq (h : Between text first last part) (h' : Between text first last part') :
    part = part' :=
  h.eq_take_drop.trans h'.eq_take_drop.symm

/-- A text is its front and the rest. -/
theorem Between.append {middle : Int} (front : Between text 0 middle part)
    (rest : Between text middle text.length part') : part ++ part' = text := by
  have long : (text.drop middle.toNat).length ≤ ((text.length : Int) - middle).toNat := by
    have inside := rest.inside
    rw [List.length_drop]
    omega
  rw [front.eq_take_drop, rest.eq_take_drop, List.take_of_length_le long, Int.toNat_zero,
    List.drop_zero, Int.sub_zero, List.take_append_drop]

end Text

/-! ### What the members give -/

namespace TextMember

variable {text part : List Char} {start stop index : Int64}

theorem slice_of_between (h : Text.Between text start.toInt stop.toInt part) :
    slice text start stop = .ok (value part) := by
  have inside := h.inside
  have admitted :
      ¬ (start.toInt < 0 ∨ stop.toInt < start.toInt ∨ (text.length : Int) < stop.toInt) := by
    omega
  rw [slice, if_neg admitted, ← h.eq_take_drop]

theorem slice_outside
    (outside : ¬ (0 ≤ start.toInt ∧ start.toInt ≤ stop.toInt ∧ stop.toInt ≤ text.length)) :
    slice text start stop = .error (outOfRange (if start.toInt < 0 then start else stop) text) := by
  rw [slice, if_pos (by omega)]

theorem character_of_between (h : Text.Between text index.toInt (index.toInt + 1) part) :
    character text index = .ok (value part) := by
  obtain ⟨front, back, rfl, first, last⟩ := h
  obtain ⟨c, rfl⟩ : ∃ c, part = [c] := by
    rw [List.length_append] at last
    exact List.length_eq_one_iff.1 (by omega)
  have there : (front ++ [c] ++ back)[index.toInt.toNat]? = some c := by
    rw [← first]
    simp
  rw [character, if_neg (by omega), there]

theorem character_outside (outside : ¬ (0 ≤ index.toInt ∧ index.toInt < text.length)) :
    character text index = .error (outOfRange index text) := by
  unfold character
  split
  · rfl
  · have nothing : text[index.toInt.toNat]? = none := List.getElem?_eq_none (by omega)
    rw [nothing]

/-- The length of a string as an integer. -/
theorem count_of_toInt {n : Nat} {w : Int64} (counted : w.toInt = n) : count n = .integer w := by
  rw [count, ← Int64.ofInt_eq_ofNat, ← counted, Int64.ofInt_toInt]

end TextMember

/-! ### What calls give -/

namespace Value

theorem equal_strings (strict : Bool) (a b : String) :
    BinaryOp.equal.apply strict (.string a) (.string b) = .ok (.boolean (a == b)) :=
  rfl

variable {s : String} {L : Int64} (counted : L.toInt = s.toList.length)

theorem substring_of_between {i j : Int64} {part : List Char}
    (h : Text.Between s.toList i.toInt j.toInt part) :
    (string s).Answers "substring" [.integer i, .integer j] (.ok (.string (String.ofList part))) :=
  TextMember.substring.answers_ok (.cons rfl (.cons rfl .nil)) (TextMember.slice_of_between h)

include counted

theorem length_answers : (string s).Answers "length" [] (.ok (.integer L)) :=
  TextMember.length.answers_ok .nil (congrArg Except.ok (TextMember.count_of_toInt counted))

theorem size_of_string (resolve : Resolver) (w : World) :
    resolve.applyBuiltin .size (string s) w = (.ok (.integer L), w) :=
  congrArg (fun size => (Except.ok size, w)) (TextMember.count_of_toInt counted)

/-- The places of words within a string, as words and as integers. -/
theorem inside_iff {i j : Int64} :
    0 ≤ i ∧ i ≤ j ∧ j ≤ L ↔ 0 ≤ i.toInt ∧ i.toInt ≤ j.toInt ∧ j.toInt ≤ s.toList.length := by
  rw [← counted, Int64.le_iff_toInt_le, Int64.le_iff_toInt_le, Int64.le_iff_toInt_le]
  rfl

theorem substring_answers (i j : Int64) :
    if 0 ≤ i ∧ i ≤ j ∧ j ≤ L then
      ∃ part, Text.Between s.toList i.toInt j.toInt part ∧
        (string s).Answers "substring" [.integer i, .integer j] (.ok (.string (String.ofList part)))
    else ∃ e, (string s).Answers "substring" [.integer i, .integer j]
      (.error (.invocation "substring" e)) := by
  split
  · rename_i inside
    obtain ⟨part, between⟩ := Text.exists_between ((inside_iff counted).1 inside)
    exact ⟨part, between, substring_of_between between⟩
  · rename_i outside
    exact ⟨_, TextMember.substring.answers_error (.cons rfl (.cons rfl .nil))
      (TextMember.slice_outside (mt (inside_iff counted).2 outside))⟩

theorem substringFrom_answers_iff (i : Int64) (result : Except EvalCause Value) :
    (string s).Answers "substring" [.integer i] result ↔
      (string s).Answers "substring" [.integer i, .integer L] result := by
  have whole : Int64.ofNat s.toList.length = L :=
    Value.integer.inj (TextMember.count_of_toInt counted)
  have one : (string s).Answers "substring" [.integer i] _ :=
    TextMember.substringFrom.answers s (.cons rfl .nil)
  have two : (string s).Answers "substring" [.integer i, .integer L] _ :=
    TextMember.substring.answers s (.cons rfl (.cons rfl .nil))
  have same : TextMember.substringFrom.run s.toList [.integer i] =
      TextMember.substring.run s.toList [.integer i, .integer L] := by
    change TextMember.slice _ _ (Int64.ofNat _) = TextMember.slice _ _ L
    rw [whole]
  rw [same] at one
  constructor
  · intro h
    rwa [h.eq one]
  · intro h
    rwa [h.eq two]

/-- What is behind a place is the rest of the string. -/
theorem substringFrom_answers_ok_iff {i : Int64} {v : Value} :
    (string s).Answers "substring" [.integer i] (.ok v) ↔
      0 ≤ i.toInt ∧ i.toInt ≤ s.toList.length ∧
        v = .string (String.ofList (s.toList.drop i.toInt.toNat)) := by
  rw [substringFrom_answers_iff counted]
  have given := substring_answers counted i L
  split at given
  · rename_i inside
    have inside := (inside_iff counted).1 inside
    obtain ⟨part, between, answers⟩ := given
    have rest : part = s.toList.drop i.toInt.toNat := by
      rw [between.eq_take_drop, List.take_of_length_le]
      rw [List.length_drop]
      omega
    rw [rest] at answers
    constructor
    · intro h
      exact ⟨inside.1, by omega, Except.ok.inj (h.eq answers)⟩
    · rintro ⟨-, -, rfl⟩
      exact answers
  · rename_i outside
    obtain ⟨e, answers⟩ := given
    constructor
    · intro h
      exact nomatch h.eq answers
    · rintro ⟨low, high, -⟩
      exact absurd ((inside_iff counted).2 ⟨low, by omega, by omega⟩) outside

theorem charAt_answers (k : Int64) :
    if 0 ≤ k ∧ k < L then
      ∃ c, (string s).Answers "charAt" [.integer k] (.ok c) ∧
        (string s).Answers "substring" [.integer k, .integer (k + 1)] (.ok c)
    else ∃ e, (string s).Answers "charAt" [.integer k] (.error (.invocation "charAt" e)) := by
  have places : 0 ≤ k ∧ k < L ↔ 0 ≤ k.toInt ∧ k.toInt < s.toList.length := by
    rw [← counted, Int64.le_iff_toInt_le, Int64.lt_iff_toInt_lt]
    rfl
  split
  · rename_i inside
    have inside := places.1 inside
    have next : (k + 1).toInt = k.toInt + 1 := by
      have high := Int64.toInt_lt L
      rw [Int64.toInt_add]
      exact Int.bmod_eq_of_le (by simp; omega) (by simp; omega)
    obtain ⟨part, between⟩ : ∃ part, Text.Between s.toList k.toInt (k.toInt + 1) part :=
      Text.exists_between ⟨inside.1, by omega, by omega⟩
    refine ⟨.string (String.ofList part), ?_, substring_of_between (next ▸ between)⟩
    exact TextMember.charAt.answers_ok (.cons rfl .nil) (TextMember.character_of_between between)
  · rename_i outside
    exact ⟨_, TextMember.charAt.answers_error (.cons rfl .nil)
      (TextMember.character_outside (mt places.2 outside))⟩

/-- The two substrings at a place, one behind the other. -/
theorem substrings_joined {i : Int64} (low : 0 ≤ i) (high : i ≤ L) :
    ∃ front back, (string s).Answers "substring" [.integer 0, .integer i] (.ok (.string front)) ∧
      (string s).Answers "substring" [.integer i] (.ok (.string back)) ∧
      (string front).Answers "concat" [.string back] (.ok (.string s)) := by
  rw [Int64.le_iff_toInt_le] at low high
  rw [counted] at high
  obtain ⟨front, before⟩ : ∃ front, Text.Between s.toList 0 i.toInt front :=
    Text.exists_between ⟨Int.le_refl 0, low, high⟩
  obtain ⟨back, behind⟩ : ∃ back, Text.Between s.toList i.toInt s.toList.length back :=
    Text.exists_between ⟨low, high, Int.le_refl _⟩
  refine ⟨String.ofList front, String.ofList back, substring_of_between before, ?_, ?_⟩
  · rw [substringFrom_answers_iff counted]
    exact substring_of_between (counted.symm ▸ behind)
  · refine TextMember.concat.answers_ok (.cons rfl .nil) (congrArg Except.ok ?_)
    rw [TextMember.value, String.toList_ofList, String.toList_ofList, before.append behind,
      String.ofList_toList]

end Value

/-- The parts of a string by place. Its length is that of its characters, which is an integer for
every string that can be held. A substring is given for two places within the string, in order, and
is the part between them; one place stands for itself and the end. A character is given for a place
in front of the end and is the substring of one character there. All other places, of any integers,
are errors of the member. The two substrings at a place make up the string. -/
theorem substring_characters (s : String) {L : Int64} (counted : L.toInt = s.toList.length) :
    let text : Value := .string s
    (text.Answers "length" [] (.ok (.integer L)) ∧
      ∀ (resolve : Resolver) (w : World),
        resolve.applyBuiltin .size text w = (.ok (.integer L), w)) ∧
    (∀ i j : Int64,
      if 0 ≤ i ∧ i ≤ j ∧ j ≤ L then
        ∃ part, Text.Between s.toList i.toInt j.toInt part ∧
          text.Answers "substring" [.integer i, .integer j] (.ok (.string (String.ofList part)))
      else ∃ e, text.Answers "substring" [.integer i, .integer j]
        (.error (.invocation "substring" e))) ∧
    (∀ (i : Int64) (result : Except EvalCause Value), text.Answers "substring" [.integer i] result ↔
      text.Answers "substring" [.integer i, .integer L] result) ∧
    (∀ k : Int64,
      if 0 ≤ k ∧ k < L then
        ∃ c, text.Answers "charAt" [.integer k] (.ok c) ∧
          text.Answers "substring" [.integer k, .integer (k + 1)] (.ok c)
      else ∃ e, text.Answers "charAt" [.integer k] (.error (.invocation "charAt" e))) ∧
    ∀ i : Int64, 0 ≤ i → i ≤ L → ∃ front back joined,
      text.Answers "substring" [.integer 0, .integer i] (.ok (.string front)) ∧
      text.Answers "substring" [.integer i] (.ok (.string back)) ∧
      (Value.string front).Answers "concat" [.string back] (.ok joined) ∧
      ∀ strict, BinaryOp.equal.apply strict joined text = .ok (.boolean true) := by
  intro text
  refine ⟨⟨Value.length_answers counted, Value.size_of_string counted⟩,
    Value.substring_answers counted, Value.substringFrom_answers_iff counted,
    Value.charAt_answers counted, fun i low high => ?_⟩
  obtain ⟨front, back, before, behind, joined⟩ := Value.substrings_joined counted low high
  refine ⟨front, back, text, before, behind, joined, fun strict => ?_⟩
  rw [Value.equal_strings, beq_self_eq_true]

/-- Places count characters, whatever they take in bytes, and the ends of the integers are places
of no string. -/
theorem substring_characters_accented :
    let text : Value := .string "héllo"
    (5 : Int64).toInt = "héllo".toList.length ∧
      text.Answers "substring" [.integer 1, .integer 3] (.ok (.string "él")) ∧
      (∃ e, text.Answers "substring" [.integer Int64.minValue, .integer Int64.maxValue]
        (.error (.invocation "substring" e))) ∧
      ∃ e, text.Answers "charAt" [.integer 5] (.error (.invocation "charAt" e)) := by
  have counted : (5 : Int64).toInt = "héllo".toList.length := by decide
  obtain ⟨-, parts, -, characters, -⟩ := substring_characters "héllo" counted
  refine ⟨counted, ?_, ?_, ?_⟩
  · have found := parts 1 3
    rw [if_pos (by decide)] at found
    obtain ⟨part, between, answers⟩ := found
    have same : part = "él".toList :=
      between.eq ⟨"h".toList, "lo".toList, by decide, by decide, by decide⟩
    rwa [same, String.ofList_toList] at answers
  · have found := parts Int64.minValue Int64.maxValue
    rwa [if_neg (by decide)] at found
  · have found := characters 5
    rwa [if_neg (by decide)] at found

end ExprScript
