import ExprScript.Proofs.Token.Tiling

/-!
# String literals

At a quote in a source either a spelled string and its closing quote stand, and then the string is
the next token, or they do not, and then there is an error at the quote.
-/

namespace ExprScript

open Scan

/-- A text between quotes. -/
def inQuotes (quote : Char) (inside : List Char) : List Char := quote :: inside ++ [quote]

section

variable {quote : Char} (mark : quote = '"' ∨ quote = '\'')

include mark

theorem Scan.scan_quote (rest : List Char) :
    scan (quote :: rest) =
      ((string quote rest).map fun s => some (.string (String.ofList s))).widen 1 := by
  rcases mark with rfl | rfl <;> rfl

/-- A quote is not passed over. -/
theorem Scan.stops_quote (rest : List Char) : Stops Text.isBlank (quote :: rest) := by
  rintro _ ⟨⟩
  rcases mark with rfl | rfl <;> rfl

namespace Cursor

/-- A spelled string is read up to its closing quote, whatever follows. -/
theorem nextToken_inQuotes (p : Position) {inside : List Char} {s : String}
    (spelling : StringSpelling quote inside s.toList) (behind : List Char) :
    nextToken ⟨p, inQuotes quote inside ++ behind⟩ =
      (.ok ⟨.string s, ⟨p, p.after (inQuotes quote inside)⟩⟩,
        ⟨p.after (inQuotes quote inside), behind⟩) := by
  have read := Reads.string behind mark (spelling.isInside (ne_backslash mark))
  rw [String.ofList_toList] at read
  exact nextToken_of_reads p .nil read

/-- Behind a quote a string is spelled, or the error is at the quote. -/
theorem inQuotes_or_error (p : Position) (rest : List Char) :
    (∃ inside behind, ∃ s : String, StringSpelling quote inside s.toList ∧
      quote :: rest = inQuotes quote inside ++ behind) ∨
    ∃ cause, (nextToken ⟨p, quote :: rest⟩).1 = .error ⟨p, cause⟩ := by
  cases read : (string quote rest).outcome with
  | error cause =>
    refine .inr ⟨cause, nextToken_of_fault p (stops_quote mark rest) ?_⟩
    simp [scan_quote mark, Scanned.widen, Scanned.map, read, Except.map]
  | ok s =>
    obtain ⟨inside, behind, rfl, -, spelling⟩ := decodes (ne_backslash mark) rest s read
    refine .inl ⟨inside, behind, String.ofList s, ?_, by simp [inQuotes]⟩
    rwa [String.toList_ofList]

end Cursor

/-- What is spelled in quotes at any place of a source is the next token there, whatever follows,
and ends at the closing quote. Any token read at a quote is spelled so, and any error is at the
quote. -/
theorem string_literal_exact (front rest : List Char) :
    (∀ inside behind (s : String), StringSpelling quote inside s.toList →
      quote :: rest = inQuotes quote inside ++ behind →
      Cursor.nextToken ⟨.after .start front, quote :: rest⟩ =
        (.ok ⟨.string s,
            ⟨.after .start front, .after .start (front ++ inQuotes quote inside)⟩⟩,
          ⟨.after .start (front ++ inQuotes quote inside), behind⟩)) ∧
    (∀ t, (Cursor.nextToken ⟨.after .start front, quote :: rest⟩).1 = .ok t →
      ∃ inside, ∃ s : String, StringSpelling quote inside s.toList ∧ t.token = .string s ∧
        t.span.extract? (front ++ quote :: rest) = some (inQuotes quote inside)) ∧
    ∀ e, (Cursor.nextToken ⟨.after .start front, quote :: rest⟩).1 = .error e →
      e.position = .after .start front := by
  have forth (inside behind : List Char) (s : String)
      (spelling : StringSpelling quote inside s.toList) :=
    Cursor.nextToken_inQuotes mark (.after .start front) spelling behind
  simp only [Position.after_append]
  refine ⟨fun inside behind s spelling split => split ▸ forth inside behind s spelling, ?_, ?_⟩
  · intro t read
    rcases Cursor.inQuotes_or_error mark (.after .start front) rest with
      ⟨inside, behind, s, spelling, split⟩ | ⟨cause, failed⟩
    · rw [split, forth inside behind s spelling] at read
      obtain rfl := Except.ok.inj read
      refine ⟨inside, s, spelling, rfl, ?_⟩
      rw [split, ← Position.after_append, ← List.append_assoc]
      exact Span.extract?_between front (inQuotes quote inside) behind
    · rw [failed] at read
      cases read
  · intro e failed
    rcases Cursor.inQuotes_or_error mark (.after .start front) rest with
      ⟨inside, behind, s, spelling, split⟩ | ⟨cause, failed'⟩
    · rw [split, forth inside behind s spelling] at failed
      cases failed
    · rw [failed'] at failed
      obtain rfl := Except.error.inj failed
      rfl

end

/-- A character, a named escape and a code between quotes, and quotes that are not closed. -/
theorem string_literal_exact_escapes :
    StringSpelling '\'' "a\\'\\u00Fc".toList "a'ü".toList ∧
    Cursor.nextToken ⟨.start, "'a\\'\\u00Fc'x".toList⟩ =
      (.ok ⟨.string "a'ü", ⟨.start, ⟨11, 1, 12⟩⟩⟩, ⟨⟨11, 1, 12⟩, ['x']⟩) ∧
    (∃ inside, ∃ s : String, StringSpelling '\'' inside s.toList ∧ Token.string "a'ü" = .string s ∧
      Span.extract? ⟨.start, ⟨11, 1, 12⟩⟩ "'a\\'\\u00Fc'x".toList = some (inQuotes '\'' inside)) ∧
    ∃ e, (Cursor.nextToken ⟨.start, "'open".toList⟩).1 = .error e ∧ e.position = .start := by
  have spelling : StringSpelling '\'' "a\\'\\u00Fc".toList "a'ü".toList :=
    .cons (.plain (by decide) (by decide)) <|
      .cons (.named (.itself (.inr (.inl rfl)))) <|
        .cons (.code (by decide) (by decide +kernel) : CharSpelling '\'' "\\u00Fc".toList 'ü') .nil
  have literal (rest : String) :=
    string_literal_exact (.inr rfl : '\'' = '"' ∨ '\'' = '\'') [] rest.toList
  have read := (literal "a\\'\\u00Fc'x").1 _ ['x'] _ spelling rfl
  have failed : (Cursor.nextToken ⟨.start, "'open".toList⟩).1 =
      .error ⟨.start, .unterminatedString⟩ := by
    decide +kernel
  exact ⟨spelling, read, (literal "a\\'\\u00Fc'x").2.1 _ (congrArg Prod.fst read), _, failed,
    (literal "open").2.2 _ failed⟩

end ExprScript
