import ExprScript.Proofs.Token.Shifting

/-!
# Sources behind each other

Two sources with a semicolon on a line of its own between them have the tokens of the first, the
semicolon and the tokens of the second, moved by what is in front of them. A comment at the end of
the first is closed by the line end, and no lexeme goes on over it.
-/

namespace ExprScript

open Scan

namespace Tiled

variable {reads : List Char → Token → List Char → Prop} {p : Position} {text : List Char}
  {tokens : List SpannedToken}

theorem ne_nil (h : Tiled reads p text tokens) : tokens ≠ [] := by
  cases h <;> simp

end Tiled

/-- Behind a tiled text and a line end reading goes on as from a place of its own. -/
theorem tokensFrom_append_line {p : Position} {text : List Char} {tokens : List SpannedToken}
    (h : Tiled Reads p text tokens) (more : List Char) :
    tokensFrom ⟨p, text ++ '\n' :: more⟩ =
      (tokensFrom ⟨p.after (text ++ ['\n']), more⟩).map (tokens.dropLast ++ ·) := by
  induction h with
  | @last p gap separator =>
    have passed : Cursor.nextToken ⟨p, gap ++ ['\n'] ++ more⟩ =
        Cursor.nextToken ⟨p.after (gap ++ ['\n']), more⟩ :=
      Cursor.nextToken_separator p separator.close (.inl rfl)
    rw [List.append_assoc, List.singleton_append] at passed
    rw [tokensFrom_congr passed]
    cases tokensFrom ⟨p.after (gap ++ ['\n']), more⟩ <;> rfl
  | @token p gap lexeme rest t others separator inside read tiled ih =>
    have cut : Reads lexeme t (rest ++ '\n' :: more) :=
      read.cut (.append rest (by simp [Text.isBlank]))
    rw [List.append_assoc, tokensFrom_of_token (nextToken_of_reads p separator cut) inside, ih,
      List.dropLast_cons_of_ne_nil tiled.ne_nil, ← Position.after_append, ← List.append_assoc]
    cases tokensFrom ⟨p.after (gap ++ lexeme ++ rest ++ ['\n']), more⟩ <;> rfl

/-- One source and then another, with a semicolon on a line of its own between them. -/
def sequenced (a b : List Char) : List Char := a ++ "\n;\n".toList ++ b

/-- Where the semicolon behind a source stands. -/
def semicolonSpan (a : List Char) : Span :=
  ⟨.after .start (a ++ ['\n']), .after .start (a ++ ['\n', ';'])⟩

/-- Where the source behind it starts. -/
def seam (a : List Char) : Position := .after .start (a ++ "\n;\n".toList)

/-- Where a span goes when a source and the semicolon are put in front. -/
def behindSeam (a : List Char) : Span → Span :=
  Span.shift (seam a).byte ((seam a).line - 1)

/-- Behind the semicolon the second source is read as it is alone. -/
theorem tokensFrom_seam (a : List Char) {b : List Char} {tokens : List SpannedToken}
    (h : tokenize b = .ok tokens) :
    tokensFrom ⟨seam a, b⟩ = .ok (tokens.map (·.move (behindSeam a))) := by
  have place : Position.start.shift (seam a).byte ((seam a).line - 1) = seam a :=
    Position.shift_start (a ++ ['\n', ';']) (by simp [seam])
  have moved := tokensFrom_shift (seam a).byte ((seam a).line - 1) (.ofText b)
  have read : tokensFrom ⟨.start, b⟩ = .ok tokens := h
  rw [Cursor.shift, Cursor.ofText, place, read] at moved
  exact moved

theorem tokenize_sequenced {a b : List Char} {tokens tokens' : List SpannedToken}
    (ha : tokenize a = .ok tokens) (hb : tokenize b = .ok tokens') :
    tokenize (sequenced a b) = .ok (tokens.dropLast ++
      ⟨.punctuation .semicolon, semicolonSpan a⟩ :: tokens'.map (·.move (behindSeam a))) := by
  have front : Tiled Reads .start a tokens := tiled_of_tokensFrom ha
  have mark : Reads [';'] (.punctuation .semicolon) [] := .punctuation .semicolon []
  have semicolon (p : Position) : Tiled Reads p [';'] _ := .cons mark.ne_end mark (.last _ .nil)
  have place : ((Position.start.after (a ++ ['\n'])).after ([';'] ++ ['\n'])) = seam a := by
    rw [← Position.after_append, seam]
    simp
  have span : (⟨.after .start (a ++ ['\n']), (Position.start.after (a ++ ['\n'])).after [';']⟩ :
      Span) = semicolonSpan a := by
    rw [← Position.after_append, semicolonSpan]
    simp
  have split : sequenced a b = a ++ '\n' :: ([';'] ++ '\n' :: b) := by simp [sequenced]
  rw [split, tokenize, Cursor.ofText, tokensFrom_append_line front,
    tokensFrom_append_line (semicolon _), place, span, tokensFrom_seam a hb]
  rfl

end ExprScript
