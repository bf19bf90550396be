import Mathlib.Data.List.Forall2
import ExprScript.Proofs.Text.Hexadecimal
import ExprScript.Proofs.Token.Scanning

/-!
# Spellings of strings

A string is spelled in quotes character by character: a character stands for itself, or is escaped
by a name or by its code. The inside of a string is read up to the first closing quote as what is
spelled there, and nothing else is read as a string.
-/

namespace ExprScript.Scan

/-- `NamedEscape name c`: behind a backslash `name` is the character `c`. -/
inductive NamedEscape : Char → Char → Prop where
  | lineFeed : NamedEscape 'n' '\n'
  | tab : NamedEscape 't' '\t'
  | carriageReturn : NamedEscape 'r' '\r'
  | backspace : NamedEscape 'b' '\x08'
  | formFeed : NamedEscape 'f' '\x0c'
  | nul : NamedEscape '0' '\x00'
  | itself {c : Char} (special : c = '\\' ∨ c = '\'' ∨ c = '"') : NamedEscape c c

/-- `CharSpelling quote part c`: inside these quotes the text `part` is the character `c`. -/
inductive CharSpelling (quote : Char) : List Char → Char → Prop where
  | plain {c : Char} (inside : c ≠ quote) (unescaped : c ≠ '\\') : CharSpelling quote [c] c
  | named {name c : Char} (escape : NamedEscape name c) : CharSpelling quote ['\\', name] c
  /-- The code in four hexadecimal digits of either case. -/
  | code {digits : List Char} {c : Char} (small : c.toNat ≤ 0xFFFF)
      (written : digits.map Char.toLower = (Nat.toDigits 16 c.toNat).leftpad 4 '0') :
      CharSpelling quote ('\\' :: 'u' :: digits) c

/-- `StringSpelling quote inside s`: the text `inside` is the string `s`, spelled character by
character for these quotes. -/
def StringSpelling (quote : Char) (inside s : List Char) : Prop :=
  ∃ parts, List.Forall₂ (CharSpelling quote) parts s ∧ inside = parts.flatten

variable {quote c : Char} {part inside rest text s : List Char}

theorem StringSpelling.nil : StringSpelling quote [] [] := ⟨[], .nil, rfl⟩

theorem StringSpelling.cons (here : CharSpelling quote part c)
    (later : StringSpelling quote inside s) : StringSpelling quote (part ++ inside) (c :: s) := by
  obtain ⟨parts, each, rfl⟩ := later
  exact ⟨part :: parts, .cons here each, rfl⟩

/-! ### The characters -/

theorem lookup_namedEscapes_iff {name : Char} :
    namedEscapes.lookup name = some c ↔ NamedEscape name c := by
  constructor
  · intro found
    have listed := mem_of_lookup found
    simp only [namedEscapes, List.mem_cons, Prod.mk.injEq, List.not_mem_nil, or_false] at listed
    rcases listed with ⟨rfl, rfl⟩ | ⟨rfl, rfl⟩ | ⟨rfl, rfl⟩ | ⟨rfl, rfl⟩ | ⟨rfl, rfl⟩ |
      ⟨rfl, rfl⟩ | ⟨rfl, rfl⟩ | ⟨rfl, rfl⟩ | ⟨rfl, rfl⟩
    · exact .lineFeed
    · exact .tab
    · exact .carriageReturn
    · exact .backspace
    · exact .formFeed
    · exact .nul
    · exact .itself (.inl rfl)
    · exact .itself (.inr (.inl rfl))
    · exact .itself (.inr (.inr rfl))
  · intro escape
    cases escape with
    | itself special => rcases special with rfl | rfl | rfl <;> rfl
    | _ => rfl

/-- A code of four digits is written with four. -/
theorem length_of_written {digits : List Char} (small : c.toNat ≤ 0xFFFF)
    (written : digits.map Char.toLower = (Nat.toDigits 16 c.toNat).leftpad 4 '0') :
    digits.length = 4 := by
  have short : (Nat.toDigits 16 c.toNat).length ≤ 4 :=
    (Nat.length_toDigits_le_iff (by decide) (by decide)).2 (Nat.lt_of_le_of_lt small (by decide))
  have lengths := congrArg List.length written
  rw [List.length_map, List.length_leftpad, Nat.max_eq_left short] at lengths
  exact lengths

theorem hexCharacter?_of_written {digits : List Char} (small : c.toNat ≤ 0xFFFF)
    (written : digits.map Char.toLower = (Nat.toDigits 16 c.toNat).leftpad 4 '0') :
    Text.hexCharacter? digits = some c := by
  have four := length_of_written small written
  have filled : digits ≠ [] := by
    rintro rfl
    cases four
  rw [Text.hexCharacter?_eq_some_iff filled, four]
  exact written

theorem CharSpelling.of_hexCharacter? {a b d e : Char}
    (h : Text.hexCharacter? [a, b, d, e] = some c) :
    CharSpelling quote ['\\', 'u', a, b, d, e] c := by
  have written := (Text.hexCharacter?_eq_some_iff (List.cons_ne_nil a _)).1 h
  have short : (Nat.toDigits 16 c.toNat).length ≤ 4 := Text.length_toDigits_le written
  have small : c.toNat < 0x10000 := (Nat.length_toDigits_le_iff (by decide) (by decide)).1 short
  exact .code (Nat.le_of_lt_succ small) written

/-- A spelled character is read as this character, whatever follows. -/
theorem string_append (other : '\\' ≠ quote) (here : CharSpelling quote part c)
    (behind : List Char) :
    string quote (part ++ behind) = ((string quote behind).map (c :: ·)).widen part.length := by
  cases here with
  | plain inside unescaped => exact string_plain behind inside unescaped
  | named escape => exact string_escape behind other (lookup_namedEscapes_iff.2 escape)
  | @code digits _ small written =>
    have read := hexCharacter?_of_written small written
    obtain ⟨a, b, d, e, rfl⟩ := List.length_eq_four.1 (length_of_written small written)
    exact string_hex behind other read

/-! ### The strings -/

/-- A spelled string is read up to its closing quote, whatever follows. -/
theorem string_of_spelling (other : '\\' ≠ quote) (h : StringSpelling quote inside s)
    (behind : List Char) :
    string quote (inside ++ quote :: behind) = ⟨.ok s, inside.length + 1⟩ := by
  obtain ⟨parts, each, rfl⟩ := h
  induction each with
  | nil => exact string_close quote behind
  | @cons part c parts s here _ ih =>
    rw [List.flatten_cons, List.append_assoc, string_append other here, ih, List.length_append]
    simp only [Scanned.map, Scanned.widen, Except.map, Nat.add_assoc]

/-- Whatever is read of the text as a string was spelled there. -/
def Decodes (quote : Char) (text : List Char) : Prop :=
  ∀ s, (string quote text).outcome = .ok s → ∃ inside behind,
    text = inside ++ quote :: behind ∧ inside.length + 1 = (string quote text).width ∧
      StringSpelling quote inside s

theorem Decodes.step (other : '\\' ≠ quote) (here : CharSpelling quote part c)
    (h : Decodes quote rest) : Decodes quote (part ++ rest) := by
  intro s read
  rw [string_append other here] at read ⊢
  obtain ⟨later, found, rfl⟩ : ∃ later, (string quote rest).outcome = .ok later ∧
      c :: later = s := by
    cases found : (string quote rest).outcome with
    | error cause => simp [Scanned.widen, Scanned.map, found, Except.map] at read
    | ok later =>
      simp only [Scanned.widen, Scanned.map, found, Except.map, Except.ok.injEq] at read
      exact ⟨later, rfl, read⟩
  obtain ⟨inside, behind, rfl, width, spelling⟩ := h later found
  refine ⟨part ++ inside, behind, (List.append_assoc ..).symm, ?_, .cons here spelling⟩
  rw [List.length_append, Nat.add_assoc, width]
  rfl

theorem decodes_of_fails (h : ∀ s, (string quote text).outcome ≠ .ok s) : Decodes quote text :=
  fun s read => absurd read (h s)

theorem decodes (other : '\\' ≠ quote) (text : List Char) : Decodes quote text := by
  induction text using string.induct quote with
  | case1 => exact decodes_of_fails (by simp [string, Scanned.fault])
  | case2 rest =>
    intro s read
    obtain rfl : [] = s := by simpa [string_close] using read
    exact ⟨[], rest, rfl, by simp [string_close], .nil⟩
  | case3 c rest inside plain ih => exact ih.step other (.plain inside plain)
  | case4 c inside escape =>
    obtain rfl : c = '\\' := Decidable.not_not.1 escape
    exact decodes_of_fails (by rw [string.eq_def]; simp [inside, Scanned.fault])
  | case5 c inside escape a b d e more decoded found ih =>
    obtain rfl : c = '\\' := Decidable.not_not.1 escape
    exact ih.step other (.of_hexCharacter? found)
  | case6 c inside escape a b d e more refused =>
    obtain rfl : c = '\\' := Decidable.not_not.1 escape
    exact decodes_of_fails (by rw [string.eq_def]; simp [inside, refused, Scanned.fault])
  | case7 c inside escape more short =>
    obtain rfl : c = '\\' := Decidable.not_not.1 escape
    exact decodes_of_fails (by rw [string.eq_def]; simp [inside, Scanned.fault])
  | case8 c inside escape name more notHex notHex' decoded found ih =>
    obtain rfl : c = '\\' := Decidable.not_not.1 escape
    exact ih.step other (.named (lookup_namedEscapes_iff.1 found))
  | case9 c inside escape name more notHex notHex' refused =>
    obtain rfl : c = '\\' := Decidable.not_not.1 escape
    exact decodes_of_fails (by rw [string.eq_def]; simp [inside, refused, Scanned.fault])

end ExprScript.Scan
