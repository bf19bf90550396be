import ExprScript.Proofs.Source.Order
import ExprScript.Token.Basic

/-!
# Positions behind lines

A text that is put behind whole lines keeps its columns: its positions move by the bytes and lines
in front of it. Moving keeps the order of positions, so it goes through everything made of them.
-/

namespace ExprScript

namespace Position

/-- The position some bytes and lines further, in the same column. -/
def shift (bytes lines : Nat) (p : Position) : Position :=
  ⟨p.byte + bytes, p.line + lines, p.column⟩

variable (bytes lines : Nat)

theorem shift_advance (p : Position) (c : Char) :
    (p.advance c).shift bytes lines = (p.shift bytes lines).advance c := by
  unfold advance
  split <;> simp [shift] <;> omega

theorem shift_after (p : Position) (text : List Char) :
    (p.after text).shift bytes lines = (p.shift bytes lines).after text := by
  induction text generalizing p with
  | nil => rfl
  | cons c text ih => rw [after_cons, after_cons, ih, shift_advance]

theorem compare_shift (p q : Position) :
    compare (p.shift bytes lines) (q.shift bytes lines) = compare p q := by
  have moved (m n k : Nat) : compare (m + k) (n + k) = compare m n := by
    simp [Nat.compare_eq_ite_lt]
  simp only [compare_eq, shift, moved]

theorem shift_earlier (p q : Position) :
    (p.earlier q).shift bytes lines = (p.shift bytes lines).earlier (q.shift bytes lines) := by
  unfold earlier
  rw [compare_shift]
  split <;> rfl

theorem shift_later (p q : Position) :
    (p.later q).shift bytes lines = (p.shift bytes lines).later (q.shift bytes lines) := by
  unfold later
  rw [compare_shift]
  split <;> rfl

/-- A place behind a line end is the start of a text, moved by what is in front of it. -/
theorem shift_start (text : List Char) {p : Position} (h : p = start.after (text ++ ['\n'])) :
    start.shift p.byte (p.line - 1) = p := by
  rw [after_append] at h
  subst h
  simp [shift, start, advance, Nat.add_comm]

end Position

namespace Span

def shift (bytes lines : Nat) (span : Span) : Span :=
  ⟨span.start.shift bytes lines, span.stop.shift bytes lines⟩

theorem shift_extend (bytes lines : Nat) (a b : Span) :
    (a.extend b).shift bytes lines = (a.shift bytes lines).extend (b.shift bytes lines) := by
  simp only [shift, extend, Position.shift_earlier, Position.shift_later]

end Span

/-- The token at another place. -/
def SpannedToken.move (f : Span → Span) (t : SpannedToken) : SpannedToken := ⟨t.token, f t.span⟩

end ExprScript
