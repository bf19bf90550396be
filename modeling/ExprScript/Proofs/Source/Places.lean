import Mathlib.Data.List.Infix
import Mathlib.Data.List.Pairwise
import ExprScript.Proofs.Source.Order
import ExprScript.Proofs.Source.Slices

/-!
# Places in a source

A position belongs to a source when it measures a part that the source starts with: its bytes, its
line feeds and what stands behind the last of them. A span belongs to a source when its ends do and
are in order; then it is a slice of the source.
-/

namespace ExprScript

namespace Position

/-- The position stands behind a text at the start of a source: it counts the bytes of the text, its
line feeds and the characters behind the last one. -/
structure Measures (p : Position) (before : List Char) : Prop where
  byte : p.byte = bytes before
  line : p.line = 1 + before.count '\n'
  column : p.column = 1 + (before.reverse.takeWhile (· ≠ '\n')).length

theorem measures_after_start (before : List Char) : (after .start before).Measures before := by
  induction before using List.reverseRecOn with
  | nil => exact ⟨rfl, rfl, rfl⟩
  | append_singleton before c ih =>
    obtain ⟨byte, line, column⟩ := ih
    have behind : after .start (before ++ [c]) = (after .start before).advance c := after_append ..
    rw [behind]
    by_cases feed : c = '\n'
    · subst feed
      constructor <;> simp [advance, byte, line, Nat.add_assoc]
    · constructor <;> simp [advance, feed, byte, line, column, Nat.add_comm]

theorem Measures.eq {p : Position} {before : List Char} (h : p.Measures before) :
    p = after .start before := by
  obtain ⟨byte, line, column⟩ := measures_after_start before
  obtain ⟨byte', line', column'⟩ := h
  cases p
  cases same : after .start before
  simp_all

/-- A position in a source stands behind some part that the source starts with. -/
def In (source : List Char) (p : Position) : Prop := ∃ before, before <+: source ∧ p.Measures before

variable {source : List Char} {p q : Position}

theorem in_after_start {before : List Char} (front : before <+: source) :
    (after .start before).In source :=
  ⟨before, front, measures_after_start before⟩

/-- In one source a position is known by its byte. -/
theorem In.eq_of_byte (h : p.In source) (h' : q.In source) (same : p.byte = q.byte) : p = q := by
  obtain ⟨before, front, measures⟩ := h
  obtain ⟨before', front', measures'⟩ := h'
  rw [measures.byte, measures'.byte] at same
  suffices before = before' by rw [measures.eq, measures'.eq, this]
  rcases List.prefix_or_prefix_of_prefix front front' with ⟨more, rfl⟩ | ⟨more, rfl⟩
  · have none : bytes more = 0 := by simpa using same
    rw [bytes_eq_zero none, List.append_nil]
  · have none : bytes more = 0 := by simpa using same
    rw [bytes_eq_zero none, List.append_nil]

theorem In.earlier_eq (h : p.In source) (h' : q.In source) (before : p.byte ≤ q.byte) :
    p.earlier q = p := by
  refine earlier_eq_left ?_
  rcases Nat.eq_or_lt_of_le before with same | less
  · exact .inl (h.eq_of_byte h' same)
  · exact .inr less

theorem In.later_eq (h : p.In source) (h' : q.In source) (before : p.byte ≤ q.byte) :
    p.later q = q := by
  rcases Nat.eq_or_lt_of_le before with same | less
  · obtain rfl := h.eq_of_byte h' same
    unfold later
    split <;> rfl
  · exact later_eq_right less

end Position

namespace Span

variable {source : List Char} {a b : Span}

/-- A span in a source is a slice of it: the text between the places that it starts and stops at. -/
def In (source : List Char) (span : Span) : Prop :=
  ∃ before text behind, source = before ++ text ++ behind ∧ span.start.Measures before ∧
    span.stop.Measures (before ++ text) ∧ span.extract? source = some text

theorem in_between (before text behind : List Char) :
    Span.In (before ++ text ++ behind) ⟨.after .start before, .after .start (before ++ text)⟩ :=
  ⟨before, text, behind, rfl, Position.measures_after_start _, Position.measures_after_start _,
    extract?_between before text behind⟩

namespace In

theorem start (h : a.In source) : a.start.In source := by
  obtain ⟨before, text, behind, rfl, measures, -⟩ := h
  exact ⟨before, by simp, measures⟩

theorem stop (h : a.In source) : a.stop.In source := by
  obtain ⟨before, text, behind, rfl, -, measures, -⟩ := h
  exact ⟨before ++ text, List.prefix_append _ _, measures⟩

theorem start_le_stop (h : a.In source) : a.start.byte ≤ a.stop.byte := by
  obtain ⟨before, text, behind, -, starts, stops, -⟩ := h
  rw [starts.byte, stops.byte, bytes_append]
  omega

theorem stop_le (h : a.In source) : a.stop.byte ≤ bytes source := by
  obtain ⟨before, text, behind, rfl, -, stops, -⟩ := h
  rw [stops.byte, bytes_append _ behind]
  omega

theorem of_ends (h : a.start.In source) (h' : a.stop.In source)
    (ordered : a.start.byte ≤ a.stop.byte) : a.In source := by
  obtain ⟨start, stop⟩ := a
  obtain ⟨before, front, starts⟩ := h
  obtain ⟨before', front', stops⟩ := h'
  obtain ⟨text, rfl⟩ : before <+: before' := by
    rcases List.prefix_or_prefix_of_prefix front front' with part | ⟨more, rfl⟩
    · exact part
    · have none : bytes more = 0 := by
        have first := starts.byte
        have last := stops.byte
        rw [bytes_append] at first
        dsimp only at ordered first last
        omega
      rw [bytes_eq_zero none, List.append_nil]
  obtain ⟨behind, rfl⟩ := front'
  obtain rfl : start = _ := starts.eq
  obtain rfl : stop = _ := stops.eq
  exact in_between before text behind

/-- The span of nothing is empty, and no other is. -/
theorem extract?_eq_nil_iff (h : a.In source) :
    a.extract? source = some [] ↔ a.start.byte = a.stop.byte := by
  obtain ⟨before, text, behind, -, starts, stops, extracts⟩ := h
  rw [extracts, starts.byte, stops.byte, bytes_append]
  constructor
  · intro none
    simp [Option.some.inj none]
  · intro none
    rw [bytes_eq_zero (show bytes text = 0 by omega)]

/-- What covers two spans one of which starts and ends later reaches from the one to the other. -/
theorem extend_eq (h : a.In source) (h' : b.In source) (starts : a.start.byte ≤ b.start.byte)
    (stops : a.stop.byte ≤ b.stop.byte) : a.extend b = ⟨a.start, b.stop⟩ := by
  simp only [extend, h.start.earlier_eq h'.start starts, h.stop.later_eq h'.stop stops]

end In

/-- Spans between two bytes, each behind the ones before it. -/
structure Row (lo hi : Nat) (spans : List Span) : Prop where
  within : ∀ span ∈ spans, lo ≤ span.start.byte ∧ span.stop.byte ≤ hi
  disjoint : spans.Pairwise fun a b => a.stop.byte ≤ b.start.byte

namespace Row

variable {lo lo' mid hi hi' : Nat} {spans spans' : List Span}

theorem nil : Row lo hi [] := ⟨by simp, .nil⟩

theorem single (starts : lo ≤ a.start.byte) (stops : a.stop.byte ≤ hi) : Row lo hi [a] :=
  ⟨by simp [starts, stops], List.pairwise_singleton _ _⟩

theorem mono (h : Row lo hi spans) (lower : lo' ≤ lo) (higher : hi ≤ hi') : Row lo' hi' spans := by
  refine ⟨fun span listed => ?_, h.disjoint⟩
  obtain ⟨starts, stops⟩ := h.within span listed
  exact ⟨Nat.le_trans lower starts, Nat.le_trans stops higher⟩

theorem append (h : Row lo mid spans) (h' : Row mid hi spans') (lower : lo ≤ mid)
    (higher : mid ≤ hi) : Row lo hi (spans ++ spans') := by
  constructor
  · intro span listed
    rcases List.mem_append.1 listed with left | right
    · exact (h.mono (Nat.le_refl _) higher).within span left
    · exact (h'.mono lower (Nat.le_refl _)).within span right
  · refine List.pairwise_append.2 ⟨h.disjoint, h'.disjoint, fun a left b right => ?_⟩
    exact Nat.le_trans (h.within a left).2 (h'.within b right).1

end Row

end Span

end ExprScript
