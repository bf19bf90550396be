import ExprScript.Proofs.Token.Characters
import ExprScript.Token.Tokenize

/-!
# Equations of the scanner

What is scanned of a text that starts with a letter or a digit, and of the inside of a string
character by character.
-/

namespace ExprScript

/-- What is looked up stands in the table. -/
theorem mem_of_lookup {α β : Type} [BEq α] [LawfulBEq α] {table : List (α × β)} {key : α}
    {value : β} (found : table.lookup key = some value) : (key, value) ∈ table := by
  obtain ⟨front, back, split, -⟩ := List.lookup_eq_some_iff.1 found
  simp [split]

namespace Scan

/-- A word is a name, or a keyword with this text, or an operator. -/
theorem word_cases (text : String) :
    (reservedWords.lookup text = none ∧ word text = .identifier text) ∨
      (∃ k : Keyword, word text = .keyword k ∧ k.text = text) ∨ ∃ s, word text = .sign s := by
  unfold word
  cases found : reservedWords.lookup text with
  | none => exact .inl ⟨rfl, rfl⟩
  | some t =>
    have listed := mem_of_lookup found
    simp only [reservedWords, List.mem_cons, Prod.mk.injEq, List.not_mem_nil, or_false] at listed
    refine .inr ?_
    rcases listed with ⟨rfl, rfl⟩ | ⟨rfl, rfl⟩ | ⟨rfl, rfl⟩ | ⟨rfl, rfl⟩ | ⟨rfl, rfl⟩ |
      ⟨rfl, rfl⟩ | ⟨rfl, rfl⟩ | ⟨rfl, rfl⟩ | ⟨rfl, rfl⟩ | ⟨rfl, rfl⟩ | ⟨rfl, rfl⟩ | ⟨rfl, rfl⟩ |
      ⟨rfl, rfl⟩ | ⟨rfl, rfl⟩ | ⟨rfl, rfl⟩ | ⟨rfl, rfl⟩ | ⟨rfl, rfl⟩ | ⟨rfl, rfl⟩ | ⟨rfl, rfl⟩ <;>
      first
      | exact .inl ⟨_, rfl, rfl⟩
      | exact .inr ⟨_, rfl⟩

theorem word_ne_end (text : String) : word text ≠ .endOfInput := by
  rcases word_cases text with ⟨-, same⟩ | ⟨k, same, -⟩ | ⟨s, same⟩ <;> simp [same]

theorem scan_of_isNameStart {c : Char} (rest : List Char) (h : isNameStart c = true) :
    scan (c :: rest) =
      .token (word (String.ofList (c :: rest.takeWhile isNamePart)))
        (c :: rest.takeWhile isNamePart).length := by
  have digit : c.isDigit = false := by
    cases digit : c.isDigit with
    | false => rfl
    | true => simp [not_isNameStart_of_isDigit digit] at h
  simp only [scan]
  split
  case h_28 => simp [digit, h]
  all_goals exact absurd h (by decide)

theorem scan_of_isDigit {c : Char} (rest : List Char) (h : c.isDigit = true) :
    scan (c :: rest) = (number (c :: rest)).map some := by
  simp only [scan]
  split
  case h_28 => simp [h]
  all_goals exact absurd h (by decide)

theorem string_close (quote : Char) (rest : List Char) :
    string quote (quote :: rest) = ⟨.ok [], 1⟩ := by
  rw [string.eq_def]
  simp

theorem string_plain {quote c : Char} (rest : List Char) (inside : c ≠ quote) (plain : c ≠ '\\') :
    string quote (c :: rest) = ((string quote rest).map (c :: ·)).widen 1 := by
  rw [string.eq_def]
  simp [inside, plain]

theorem string_escape {quote name decoded : Char} (rest : List Char) (other : '\\' ≠ quote)
    (found : namedEscapes.lookup name = some decoded) :
    string quote ('\\' :: name :: rest) =
      ((string quote rest).map (decoded :: ·)).widen 2 := by
  have hex : name ≠ 'u' := by
    rintro rfl
    have none : namedEscapes.lookup 'u' = none := rfl
    simp [none] at found
  rw [string.eq_def]
  simp only [if_neg other, ne_eq, not_true_eq_false, if_false]
  split
  · simp_all
  · simp_all
  · simp_all
  · simp_all

theorem string_hex {quote a b d e decoded : Char} (rest : List Char) (other : '\\' ≠ quote)
    (found : Text.hexCharacter? [a, b, d, e] = some decoded) :
    string quote ('\\' :: 'u' :: a :: b :: d :: e :: rest) =
      ((string quote rest).map (decoded :: ·)).widen 6 := by
  rw [string.eq_def]
  simp [other, found]

end Scan

/-- A nonempty run of digits. -/
def IsDigits (text : List Char) : Prop := text ≠ [] ∧ ∀ c ∈ text, c.isDigit = true

theorem isDigits_toDigits (n : Nat) : IsDigits (Nat.toDigits 10 n) :=
  ⟨Nat.toDigits_ne_nil, fun _ => Nat.isDigit_of_mem_toDigits (by decide) (by decide)⟩

/-- A text that begins with a digit has no sign in front of it. -/
theorem splitSign_of_isDigit {c : Char} (digit : c.isDigit = true) (rest : List Char) :
    splitSign (c :: rest) = (false, c :: rest) := by
  unfold splitSign
  split
  · rename_i same
    obtain ⟨rfl, -⟩ := List.cons.inj same
    simp at digit
  · rename_i same
    obtain ⟨rfl, -⟩ := List.cons.inj same
    simp at digit
  · rfl

namespace IsDigits

variable {text rest : List Char}

theorem starts (h : IsDigits text) : ∃ c more, text = c :: more ∧ c.isDigit = true := by
  obtain ⟨nonempty, all⟩ := h
  cases text with
  | nil => exact absurd rfl nonempty
  | cons c more => exact ⟨c, more, rfl, all c (by simp)⟩

theorem splitSign_eq (h : IsDigits text) : splitSign text = (false, text) := by
  obtain ⟨c, more, rfl, digit⟩ := h.starts
  exact splitSign_of_isDigit digit more

theorem readInt?_eq (h : IsDigits text) :
    readInt? text = some (Nat.ofDigitChars 10 text 0 : Int) := by
  have all : text.all Char.isDigit = true := List.all_eq_true.2 h.2
  simp [readInt?, h.splitSign_eq, readDigits?, h.1, all]

theorem scan_eq (h : IsDigits text) (rest : List Char) :
    scan (text ++ rest) = (Scan.number (text ++ rest)).map some := by
  obtain ⟨c, more, rfl, digit⟩ := h.starts
  exact Scan.scan_of_isDigit _ digit

end IsDigits

end ExprScript
