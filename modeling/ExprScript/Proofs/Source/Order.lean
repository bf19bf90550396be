import ExprScript.Source.Span

/-!
# The order of positions

The byte decides, so spans that are made of places in one text are found by their bytes.
-/

namespace ExprScript

namespace Position

variable {p q : Position}

theorem compare_eq (p q : Position) :
    compare p q = (compare p.byte q.byte).then
      ((compare p.line q.line).then (compare p.column q.column)) := rfl

theorem compare_of_byte_lt (h : p.byte < q.byte) : compare p q = .lt := by
  simp [compare_eq, Nat.compare_eq_ite_lt, h]

theorem earlier_eq_left (h : p = q ∨ p.byte < q.byte) : p.earlier q = p := by
  unfold earlier
  rcases h with rfl | before
  · simp
  · simp [compare_of_byte_lt before]

theorem later_eq_right (h : p.byte < q.byte) : p.later q = q := by
  simp [later, compare_of_byte_lt h]

/-- The later of two is one of them. -/
theorem later_cases (p q : Position) : p.later q = p ∨ p.later q = q := by
  unfold later
  split
  · exact .inr rfl
  · exact .inl rfl

end Position

namespace Span

open Position

theorem extend_self (a : Span) : a.extend a = a := by
  simp [extend, earlier, later]

/-- What starts in a span and ends before another is covered by both. -/
theorem extend_extend {a b c : Span} (starts : a.start = b.start ∨ a.start.byte < b.start.byte)
    (ends : a.stop.byte < c.stop.byte) (ends' : b.stop.byte < c.stop.byte) :
    (a.extend b).extend c = a.extend c := by
  have last : (a.stop.later b.stop).later c.stop = c.stop := by
    rcases later_cases a.stop b.stop with same | same
    · rw [same, later_eq_right ends]
    · rw [same, later_eq_right ends']
  simp only [extend, earlier_eq_left starts, last, later_eq_right ends]

end Span

end ExprScript
