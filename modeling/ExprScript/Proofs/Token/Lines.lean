import ExprScript.Proofs.Source.Places
import ExprScript.Proofs.Token.Seam

/-!
# Lines behind a source

A line end closes whatever is open at the end of a source with tokens, so another source on the
lines behind it is read as it is read alone, and its tokens, or the error in it, stand as many bytes
and lines further as there are in front of it.
-/

namespace ExprScript

open Scan

/-- How many lines a text has. -/
def lineCount (text : List Char) : Nat := text.count '\n' + 1

/-- The place behind a source and a line end. -/
theorem start_shift_lines (a : List Char) :
    Position.start.after (a ++ ['\n']) = Position.start.shift (bytes a + 1) (lineCount a) := by
  obtain ⟨byte, line, -⟩ := Position.measures_after_start (a ++ ['\n'])
  have feed : bytes ['\n'] = 1 := rfl
  have place := Position.shift_start a rfl
  rw [byte, line, bytes_append, feed, List.count_append, Nat.add_sub_cancel_left] at place
  exact place.symm

/-- Behind a source with tokens and a line end another source is read as it is alone, as many bytes
and lines further as there are in front of it: its tokens follow those of the first, without the end
token of the first, and its error is the error of both. -/
theorem tokenize_append_line {a : List Char} {tokens : List SpannedToken}
    (h : tokenize a = .ok tokens) (b : List Char) :
    (∀ later, tokenize b = .ok later → tokenize (a ++ '\n' :: b) =
      .ok (tokens.dropLast ++ later.map (·.move (Span.shift (bytes a + 1) (lineCount a))))) ∧
    ∀ e, tokenize b = .error e →
      tokenize (a ++ '\n' :: b) = .error (e.shift (bytes a + 1) (lineCount a)) := by
  have tiled : Tiled Reads .start a tokens := tiled_of_tokensFrom h
  have whole : tokenize (a ++ '\n' :: b) = (((tokenize b).map
      (List.map (·.move (Span.shift (bytes a + 1) (lineCount a))))).mapError
        (LexError.shift (bytes a + 1) (lineCount a))).map (tokens.dropLast ++ ·) := by
    rw [tokenize, Cursor.ofText, tokensFrom_append_line tiled, start_shift_lines]
    exact congrArg _ (tokensFrom_shift _ _ (.ofText b))
  constructor
  · intro later read
    rw [whole, read]
    rfl
  · intro e failed
    rw [whole, failed]
    rfl

/-- A comment that the line end closes, and behind it a name or a string that is not closed. -/
theorem tokenize_append_line_note : ∃ tokens later e,
    tokenize "x // ä".toList = .ok tokens ∧ tokenize "y".toList = .ok later ∧
    tokenize "'open".toList = .error e ∧
    tokenize "x // ä\ny".toList =
      .ok (tokens.dropLast ++ later.map (·.move (Span.shift 8 1))) ∧
    tokenize "x // ä\n'open".toList = .error (e.shift 8 1) := by
  have read : tokenize "x // ä".toList = .ok
      [⟨.identifier "x", ⟨⟨0, 1, 1⟩, ⟨1, 1, 2⟩⟩⟩, ⟨.endOfInput, ⟨⟨7, 1, 7⟩, ⟨7, 1, 7⟩⟩⟩] := by
    decide +kernel
  have read' : tokenize "y".toList = .ok
      [⟨.identifier "y", ⟨⟨0, 1, 1⟩, ⟨1, 1, 2⟩⟩⟩, ⟨.endOfInput, ⟨⟨1, 1, 2⟩, ⟨1, 1, 2⟩⟩⟩] := by
    decide +kernel
  have failed : tokenize "'open".toList = .error ⟨⟨0, 1, 1⟩, .unterminatedString⟩ := by
    decide +kernel
  exact ⟨_, _, _, read, read', failed, (tokenize_append_line read _).1 _ read',
    (tokenize_append_line read _).2 _ failed⟩

end ExprScript
