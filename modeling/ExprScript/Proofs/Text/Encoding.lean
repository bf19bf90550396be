import ExprScript.Proofs.Source.Slices
import ExprScript.Proofs.Text.Search

/-!
# Searching the bytes of a text

A text can be searched by its bytes in UTF-8 as well. No byte inside a character looks like the
first one of a character, so a part is never found off the boundaries of characters, and the first
place among the bytes is that among the characters.
-/

namespace ExprScript.Text

/-- The bytes of a text in UTF-8. -/
def utf8 (text : List Char) : List UInt8 := text.flatMap String.utf8EncodeChar

variable {part text : List Char} {i place : Nat}

@[simp] theorem utf8_append (left right : List Char) :
    utf8 (left ++ right) = utf8 left ++ utf8 right :=
  List.flatMap_append

theorem utf8_cons (c : Char) (text : List Char) :
    utf8 (c :: text) = String.utf8EncodeChar c ++ utf8 text :=
  List.flatMap_cons

theorem length_utf8 (text : List Char) : (utf8 text).length = bytes text := by
  induction text with
  | nil => rfl
  | cons c text ih =>
    rw [utf8_cons, List.length_append, String.length_utf8EncodeChar, ih, bytes_cons]

/-- The bytes behind the first characters are those of the characters behind. -/
theorem drop_utf8 (text : List Char) (i : Nat) :
    (utf8 text).drop (bytes (text.take i)) = utf8 (text.drop i) := by
  have parts : utf8 text = utf8 (text.take i) ++ utf8 (text.drop i) := by
    rw [← utf8_append, List.take_append_drop]
  rw [parts, ← length_utf8, List.drop_left]

/-- Texts are told apart by their bytes, front by front. -/
theorem utf8_isPrefix_iff : utf8 part <+: utf8 text ↔ part <+: text := by
  constructor
  · rintro ⟨rest, same⟩
    refine List.isPrefix_of_utf8Encode_append_eq_utf8Encode rest.toByteArray ?_
    rw [List.utf8Encode, List.utf8Encode, ← List.toByteArray_append]
    exact congrArg List.toByteArray same
  · rintro ⟨rest, rfl⟩
    rw [utf8_append]
    exact List.prefix_append _ _

/-- The bytes of a text begin with one that begins a character. -/
theorem exists_first_byte (nonempty : text ≠ []) :
    ∃ b rest, utf8 text = b :: rest ∧ b.IsUTF8FirstByte := by
  obtain ⟨c, text, rfl⟩ := List.exists_cons_of_ne_nil nonempty
  obtain ⟨b, rest, encoded⟩ := List.exists_cons_of_ne_nil (String.utf8EncodeChar_ne_nil (c := c))
  refine ⟨b, rest ++ utf8 text, by rw [utf8_cons, encoded, List.cons_append], ?_⟩
  have inside : 0 < (String.utf8EncodeChar c).length := by simp [encoded]
  have first : (String.utf8EncodeChar c)[0] = b := by simp [encoded]
  rw [← first]
  exact UInt8.isUTF8FirstByte_getElem_utf8EncodeChar.2 rfl

/-- No byte inside a character begins one. -/
theorem eq_zero_of_first_byte {c : Char} {b : UInt8}
    (there : (String.utf8EncodeChar c)[place]? = some b) (first : b.IsUTF8FirstByte) :
    place = 0 := by
  obtain ⟨inside, rfl⟩ := List.getElem?_eq_some_iff.1 there
  exact UInt8.isUTF8FirstByte_getElem_utf8EncodeChar.1 first

/-- The bytes of a part stand in those of a text only where the part stands in the text. -/
theorem exists_place_of_utf8 (nonempty : part ≠ []) (found : utf8 part <+: (utf8 text).drop place) :
    ∃ i, place = bytes (text.take i) ∧ part <+: text.drop i := by
  obtain ⟨b, rest, encoded, first⟩ := exists_first_byte nonempty
  induction text generalizing place with
  | nil =>
    rw [encoded] at found
    simp [utf8] at found
  | cons c text ih =>
    rcases Nat.lt_or_ge place (String.utf8EncodeChar c).length with inside | behind
    -- The place is in the bytes of the first character, so it is where they begin.
    · have there : (utf8 (c :: text))[place]? = some b := by
        obtain ⟨more, same⟩ := found
        have head : ((utf8 (c :: text)).drop place)[0]? = some b := by
          rw [← same, encoded]
          rfl
        rwa [List.getElem?_drop, Nat.add_zero] at head
      rw [utf8_cons, List.getElem?_append_left inside] at there
      obtain rfl := eq_zero_of_first_byte there first
      exact ⟨0, rfl, utf8_isPrefix_iff.1 found⟩
    -- It is in the bytes of the characters behind.
    · rw [utf8_cons, List.drop_append, List.drop_of_length_le behind, List.nil_append] at found
      obtain ⟨i, same, stands⟩ := ih found
      refine ⟨i + 1, ?_, stands⟩
      rw [String.length_utf8EncodeChar] at same behind
      rw [List.take_succ_cons, bytes_cons]
      omega

/-- A part without a place has none among the bytes. -/
theorem absent_utf8 (absent : ∀ i, ¬ part <+: text.drop i) (place : Nat) :
    ¬ utf8 part <+: (utf8 text).drop place := by
  intro found
  have nonempty : part ≠ [] := by
    rintro rfl
    exact absent 0 List.nil_prefix
  obtain ⟨i, -, stands⟩ := exists_place_of_utf8 nonempty found
  exact absent i stands

theorem bytes_take_le (text : List Char) {i j : Nat} (le : i ≤ j) :
    bytes (text.take i) ≤ bytes (text.take j) := by
  obtain ⟨more, same⟩ := List.take_prefix_take_left le (l := text)
  rw [← same, bytes_append]
  exact Nat.le_add_right _ _

/-- The first place among the bytes is where the first place among the characters is. -/
theorem FirstAt.utf8 (first : FirstAt part text i) :
    FirstAt (utf8 part) (utf8 text) (bytes (text.take i)) := by
  refine ⟨?_, fun earlier less found => ?_⟩
  · rw [drop_utf8]
    exact utf8_isPrefix_iff.2 first.1
  · by_cases nonempty : part = []
    · subst nonempty
      -- The empty part is found in front of everything.
      have front : FirstAt [] text 0 :=
        ⟨List.nil_prefix, fun _ less => absurd less (Nat.not_lt_zero _)⟩
      obtain rfl := first.eq front
      exact absurd less (Nat.not_lt_zero _)
    · obtain ⟨j, rfl, stands⟩ := exists_place_of_utf8 nonempty found
      have behind : i ≤ j := Nat.le_of_not_lt fun before => first.2 j before stands
      exact absurd less (Nat.not_lt_of_le (bytes_take_le text behind))

end ExprScript.Text
