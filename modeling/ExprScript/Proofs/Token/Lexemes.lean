import ExprScript.Proofs.Token.Reading

/-!
# Lexemes

A lexeme of a token is a text that is scanned as this token and no further, when a space or the end
is behind it. These are the texts that read as the token at the end of a source.
-/

namespace ExprScript

/-- A text at which every lexeme ends. -/
def Scan.EndsLexeme (rest : List Char) : Prop := rest = [] ∨ ∃ more, rest = ' ' :: more

structure Lexeme (text : List Char) (t : Token) : Prop where
  starts : ∃ c rest, text = c :: rest ∧ Text.isBlank c = false
  inside : t ≠ .endOfInput
  scanned : ∀ rest, Scan.EndsLexeme rest → scan (text ++ rest) = .token t text.length

namespace Lexeme

open Scan

variable {text rest : List Char} {t : Token}

theorem ofReads (h : Reads text t []) : Lexeme text t where
  starts := h.starts
  inside := h.ne_end
  scanned rest ends := by
    have blank : ∀ c ∈ rest.head?, Text.isBlank c = true := by
      rcases ends with rfl | ⟨more, rfl⟩ <;> simp [Text.isBlank_space]
    exact scan_of_reads (h.cut (.stop blank))

theorem reads (h : Lexeme text t) (ends : EndsLexeme rest) : Reads text t rest := by
  obtain ⟨c, more, filled, -⟩ := h.starts
  obtain ⟨lexeme, behind, split, length, reads⟩ :=
    (scan_eq_token_iff (by simp [filled])).1 (h.scanned rest ends)
  obtain ⟨rfl, rfl⟩ := List.append_inj split length.symm
  exact reads

theorem ofPunctuation (m : Punctuation) : Lexeme m.text.toList (.punctuation m) :=
  ofReads (.punctuation m [])

theorem ofSign (operator : Sign) : Lexeme operator.text.toList (.sign operator) :=
  ofReads (.sign operator .nil)

end Lexeme

namespace Scan

/-- A text that has the shape of a name. -/
def IsWord (text : String) : Prop :=
  ∃ c rest, text.toList = c :: rest ∧ isNameStart c = true ∧ ∀ part ∈ rest, isNamePart part = true

theorem IsWord.reads {text : String} {rest : List Char} (h : IsWord text)
    (ends : Stops isNamePart rest) : Reads text.toList (word text) rest := by
  obtain ⟨c, parts, same, start, all⟩ := h
  have read := Reads.word start all ends
  rwa [← same, String.ofList_toList] at read

theorem word_keyword (k : Keyword) : word k.text = .keyword k := by
  cases k <;> rfl

theorem isWord_keyword (k : Keyword) : IsWord k.text := by
  cases k <;> exact ⟨_, _, rfl, by decide, List.all_eq_true.1 (by decide)⟩

end Scan

/-- A name that a variable can have: it is neither a keyword nor an operator. -/
def IsVariable (text : String) : Prop :=
  Scan.IsWord text ∧ Scan.reservedWords.lookup text = none

/-- A name that a member can have: it is no operator, but can be a keyword. -/
def IsMember (text : String) : Prop :=
  Scan.IsWord text ∧ ∀ operator, Scan.word text ≠ .sign operator

theorem Lexeme.ofWord {text : String} (h : Scan.IsWord text) :
    Lexeme text.toList (Scan.word text) :=
  ofReads (h.reads .nil)

theorem Lexeme.ofInteger {n : Int64} (h : 0 ≤ n.toInt) :
    Lexeme (Integer.digits n.toInt) (.integer n) := by
  have text : Integer.digits n.toInt = Nat.toDigits 10 n.toInt.natAbs := by
    rw [Integer.digits, if_neg (by omega)]
  have digits := isDigits_toDigits n.toInt.natAbs
  have read : Integer.read? (Nat.toDigits 10 n.toInt.natAbs) = some n := by
    rw [Integer.read?, digits.readInt?_eq, Nat.ofDigitChars_ten_toDigits, Int.natAbs_of_nonneg h]
    exact Integer.fit?_toInt n
  rw [text]
  exact ofReads (.integer digits read .nil (by simp))

/-- Digits, a point and digits are a number, if they are read as one. -/
theorem Lexeme.ofFloat {whole fraction : List Char} {x : Float} (h : IsDigits whole)
    (h' : IsDigits fraction) (read : Double.read? (whole ++ '.' :: fraction) = some x) :
    Lexeme (whole ++ '.' :: fraction) (.float x) :=
  ofReads (.float h h' read .nil)

/-- A text in single quotes, with backslashes and quotes escaped. -/
def quoted (s : String) : List Char :=
  '\'' :: s.toList.flatMap escaped ++ ['\'']
where
  escaped (c : Char) : List Char := if c = '\\' ∨ c = '\'' then ['\\', c] else [c]

theorem spelling_quoted (s : List Char) :
    Scan.StringSpelling '\'' (s.flatMap quoted.escaped) s := by
  induction s with
  | nil => exact .nil
  | cons c s ih =>
    refine .cons ?_ ih
    by_cases special : c = '\\' ∨ c = '\''
    · rw [quoted.escaped, if_pos special]
      exact .named (.itself (special.imp_right .inl))
    · obtain ⟨unescaped, inside⟩ := not_or.1 special
      rw [quoted.escaped, if_neg special]
      exact .plain inside unescaped

theorem Lexeme.ofString (s : String) : Lexeme (quoted s) (.string s) := by
  have closed := (spelling_quoted s.toList).isInside (by decide)
  have read := Scan.Reads.string [] (.inr rfl) closed
  rw [String.ofList_toList] at read
  exact ofReads read

end ExprScript
