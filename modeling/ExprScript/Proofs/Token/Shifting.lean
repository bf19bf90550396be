import ExprScript.Proofs.Source.Shifting
import ExprScript.Proofs.Token.Tiling

/-!
# Reading at another place

What is read of a text depends on the text alone: at another place, some bytes and lines further in
the same column, there are the same tokens or the same error, moved there.
-/

namespace ExprScript

open Scan

/-- The error some bytes and lines further. -/
def LexError.shift (bytes lines : Nat) (e : LexError) : LexError :=
  ⟨e.position.shift bytes lines, e.cause⟩

namespace Cursor

variable (bytes lines : Nat)

def shift (c : Cursor) : Cursor := ⟨c.position.shift bytes lines, c.rest⟩

@[simp] theorem rest_shift (c : Cursor) : (c.shift bytes lines).rest = c.rest := rfl

theorem shift_advance (c : Cursor) (count : Nat) :
    (c.shift bytes lines).advance count = (c.advance count).shift bytes lines := by
  simp only [shift, advance, Position.shift_after]

theorem shift_skipBlanks (c : Cursor) :
    (c.shift bytes lines).skipBlanks = c.skipBlanks.shift bytes lines :=
  shift_advance bytes lines c _

/-- What is read at another place is the same, and stands there. -/
theorem nextToken_shift (c : Cursor) :
    (c.shift bytes lines).nextToken =
      ((c.nextToken.1.map (·.move (Span.shift bytes lines))).mapError (LexError.shift bytes lines),
        c.nextToken.2.shift bytes lines) := by
  induction c using nextToken.induct with
  | case1 c before scanned token outcome =>
    have scans : (scan c.skipBlanks.rest).outcome = .ok (some token) := outcome
    rw [nextToken_eq_scan, nextToken_eq_scan c, shift_skipBlanks, rest_shift, shift_advance, scans]
    rfl
  | case2 c before scanned cause outcome =>
    have scans : (scan c.skipBlanks.rest).outcome = .error cause := outcome
    rw [nextToken_eq_scan, nextToken_eq_scan c, shift_skipBlanks, rest_shift, shift_advance, scans]
    rfl
  | case3 c before scanned behind outcome ih =>
    have scans : (scan c.skipBlanks.rest).outcome = .ok none := outcome
    rw [nextToken_eq_scan, nextToken_eq_scan c, shift_skipBlanks, rest_shift, shift_advance, scans]
    exact ih

end Cursor

/-- The tokens at another place are the same, and stand there. -/
theorem tokensFrom_shift (bytes lines : Nat) (c : Cursor) :
    tokensFrom (c.shift bytes lines) =
      ((tokensFrom c).map (List.map (·.move (Span.shift bytes lines)))).mapError
        (LexError.shift bytes lines) := by
  induction c using tokensFrom.induct with
  | case1 c e behind read =>
    rw [tokensFrom_eq, tokensFrom_eq c, Cursor.nextToken_shift, read]
    rfl
  | case2 c t behind read inside ih =>
    have read' := c.nextToken_shift bytes lines
    rw [read] at read'
    rw [tokensFrom_of_token read' inside, tokensFrom_of_token read inside, ih]
    cases tokensFrom behind <;> rfl
  | case3 c t behind read last =>
    obtain ⟨token, span⟩ := t
    obtain rfl : token = .endOfInput := Decidable.not_not.1 last
    have read' := c.nextToken_shift bytes lines
    rw [read] at read'
    rw [tokensFrom_of_end read', tokensFrom_of_end read]
    rfl

end ExprScript
