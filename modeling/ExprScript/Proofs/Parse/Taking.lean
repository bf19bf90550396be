import ExprScript.Parse.Statement
import ExprScript.Proofs.Grammar.Basic

/-!
# What a parser takes

`Takes s word r` says that the tokens of `word` stand at the front of the stream `s` and that `r` is
the stream behind them. `Parsed.Gives` says that a parser succeeds, with which value and at which
rest, and forgets the bound on the rest. Together they let the successes of the parsers be stated
over words.
-/

namespace ExprScript

namespace Parsed

variable {α β : Type} {m n : Nat}

/-- Success with a value at a rest. -/
def Gives (p : Parsed α n) (value : α) (rest : Stream) : Prop :=
  ∃ fewer, p = .done value rest fewer

@[simp] theorem gives_done {value value' : α} {rest rest' : Stream} {fewer : rest.size < n} :
    (done value rest fewer).Gives value' rest' ↔ value = value' ∧ rest = rest' := by
  constructor
  · rintro ⟨_, same⟩
    cases same
    exact ⟨rfl, rfl⟩
  · rintro ⟨rfl, rfl⟩
    exact ⟨fewer, rfl⟩

@[simp] theorem gives_failed {error : SyntaxError} {rest rest' : Stream} {value : α} :
    ¬ (failed error rest : Parsed α n).Gives value rest' := by
  rintro ⟨_, same⟩
  cases same

@[simp] theorem gives_widen {p : Parsed α m} {h : m ≤ n} {a : α} {r : Stream} :
    (p.widen h).Gives a r ↔ p.Gives a r := by
  cases p <;> simp [widen]

/-- A parser has one success at most. -/
theorem Gives.unique {p : Parsed α n} {a a' : α} {r r' : Stream} (h : p.Gives a r)
    (h' : p.Gives a' r') : a = a' ∧ r = r' := by
  obtain ⟨_, rfl⟩ := h
  exact gives_done.1 h'

theorem Gives.fewer {p : Parsed α n} {a : α} {r : Stream} (h : p.Gives a r) : r.size < n :=
  h.1

/-- A parser that goes on with the value and the rest of another succeeds when both do. -/
theorem gives_andThen {p : Parsed α m}
    {f : (value : α) → (rest : Stream) → rest.size < m → Parsed β n} {b : β} {r : Stream} :
    (p.andThen f).Gives b r ↔
      ∃ a r', ∃ first : p.Gives a r', (f a r' first.fewer).Gives b r := by
  constructor
  · cases p with
    | done a r' fewer =>
      intro h
      exact ⟨a, r', ⟨fewer, rfl⟩, h⟩
    | failed => exact fun h => absurd h gives_failed
  · rintro ⟨a, r', ⟨fewer, rfl⟩, h⟩
    exact h

end Parsed

namespace Stream

/-- The tokens ahead, up to the end of the input. -/
def words (s : Stream) : List Token :=
  (s.rest.map SpannedToken.token).takeWhile (· ≠ .endOfInput)

theorem words_of_end {s : Stream} (h : s.current.token = .endOfInput) : s.words = [] := by
  obtain ⟨rest, last⟩ := s
  cases rest <;> simp_all [words, current]

theorem words_of_current {s : Stream} (h : s.current.token ≠ .endOfInput) :
    s.words = s.current.token :: s.next.words := by
  obtain ⟨rest, last⟩ := s
  cases rest <;> simp_all [words, current, next]

/-- The tokens of a word stand at the front of a stream, and another stream is behind them. -/
inductive Takes : Stream → List Token → Stream → Prop where
  | nil {s} : Takes s [] s
  | cons {s word r} :
    s.current.token ≠ .endOfInput → Takes s.next word r → Takes s (s.current.token :: word) r

namespace Takes

variable {s r r' : Stream} {t : Token} {word word' left right : List Token}

@[simp] theorem nil_iff : Takes s [] r ↔ s = r := by
  constructor
  · rintro ⟨⟩
    rfl
  · rintro rfl
    exact .nil

@[simp] theorem cons_iff :
    Takes s (t :: word) r ↔ s.current.token = t ∧ t ≠ .endOfInput ∧ Takes s.next word r := by
  constructor
  · rintro (_ | ⟨inside, taken⟩)
    exact ⟨rfl, inside, taken⟩
  · rintro ⟨rfl, inside, taken⟩
    exact .cons inside taken

@[simp] theorem append_iff :
    Takes s (left ++ right) r ↔ ∃ m, Takes s left m ∧ Takes m right r := by
  induction left generalizing s with
  | nil => simp
  | cons t left ih => simp [ih, and_assoc]

theorem words_eq (h : Takes s word r) : s.words = word ++ r.words := by
  induction h with
  | nil => rfl
  | cons inside _ ih => rw [words_of_current inside, ih, List.cons_append]

theorem size_eq (h : Takes s word r) : s.size = word.length + r.size := by
  induction h with
  | nil => simp
  | @cons s word r inside _ ih =>
    have passed : s.next.size + 1 = s.size := by
      obtain ⟨rest, last⟩ := s
      cases rest <;> simp_all [current, next, size]
    simp only [List.length_cons]
    omega

theorem size_lt (h : Takes s (t :: word) r) : r.size < s.size := by
  rw [h.size_eq, List.length_cons]
  omega

/-- What stands before a rest is determined by the rest. -/
theorem unique (h : Takes s word r) (h' : Takes s word' r) : word = word' :=
  List.append_cancel_right (h.words_eq.symm.trans h'.words_eq)

/-- All the words of a stream can be taken. -/
theorem all (s : Stream) : ∃ r, Takes s s.words r ∧ r.current.token = .endOfInput := by
  by_cases h : s.current.token = .endOfInput
  · exact ⟨s, by simp [words_of_end h], h⟩
  · have shorter := size_next_lt h
    obtain ⟨r, taken, last⟩ := all s.next
    exact ⟨r, by rw [words_of_current h]; exact .cons h taken, last⟩
termination_by s.size

end Takes

theorem current_ne_end {s : Stream} {t : Token} (h : s.current.token = t)
    (inside : t ≠ .endOfInput) : s.current.token ≠ .endOfInput := by
  rw [h]
  exact inside

/-- A mark that has to be there is taken. -/
theorem expect_gives {s r : Stream} {mark : Punctuation} {after : Construct} {u : Unit} :
    (s.expect mark after).Gives u r ↔ Takes s [.punctuation mark] r := by
  unfold expect
  split
  · rename_i h
    simp [h]
  · rename_i h
    simp [fail, h]

/-- Closing takes the mark that closes. -/
theorem close_gives {s r : Stream} {opening : Punctuation} {after : Construct} {opened : Span}
    {u : Unit} :
    (s.close opening after opened).Gives u r ↔ Takes s [.punctuation (closing opening)] r := by
  unfold close
  split
  · rename_i h
    simp [h]
  · exact expect_gives

/-- A member name takes any token that can be one. -/
theorem memberName_gives {s r : Stream} {name : Name Span} :
    s.memberName.Gives name r ↔
      Takes s [s.current.token] r ∧
        s.current.token.memberText? = some name.text ∧ name.span = s.current.span := by
  obtain ⟨text, span⟩ := name
  unfold memberName
  split
  · rename_i h
    simp only [Parsed.gives_done, Name.mk.injEq, Takes.cons_iff, Takes.nil_iff, h,
      Token.memberText?, Option.some.injEq]
    grind
  · rename_i h
    simp only [Parsed.gives_done, Name.mk.injEq, Takes.cons_iff, Takes.nil_iff, h,
      Token.memberText?, Option.some.injEq]
    grind
  · rename_i h₁ h₂
    cases same : s.current.token <;> simp_all [fail, Token.memberText?]

end Stream

end ExprScript
