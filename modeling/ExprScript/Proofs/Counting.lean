import ExprScript.Proofs.Eval.Integers
import ExprScript.Proofs.Evaluating

/-!
# Counting up to a bound

A loop ends if an invariant counts down the rounds to go. For `while (x < n) x = x + 1;` there are
as many as `x` is below `n`. Every round adds one to `x`, and this is a word again since `x` was
below another one. The last round leaves `x` at `n`.
-/

namespace ExprScript

open Grammar

/-! ### Loops with an invariant -/

namespace Eval

variable {condition body : Eval Value} {I : Nat → Value → State → Prop}

/-- A loop ends when an invariant says how many rounds are to go. `I n last s` is about a state with
`n` rounds to go, behind a round that gave `last`; any limit beyond this number is enough. -/
theorem repeatWhile_of_invariant
    (step : ∀ n last s, I (n + 1) last s → ∃ test value s', condition s = (.value test, s) ∧
      test.isTruthy = true ∧ body s = (.value value, s') ∧ I n value s')
    (exit : ∀ last s, I 0 last s → ∃ test, condition s = (.value test, s) ∧ test.isTruthy = false)
    {n : Nat} {last : Value} {s : State} (h : I n last s) {rounds : Nat} (enough : n < rounds) :
    ∃ value s', repeatWhile condition body rounds last s = (.value value, s') ∧ I 0 value s' := by
  induction rounds generalizing n last s with
  | zero => exact absurd enough (Nat.not_lt_zero n)
  | succ rounds ih =>
    rw [repeatWhile]
    cases n with
    | zero =>
      obtain ⟨test, tested, falsy⟩ := exit last s h
      refine ⟨last, s, ?_, h⟩
      rw [bind_of_value tested, if_neg (by simp [falsy])]
      rfl
    | succ n =>
      obtain ⟨test, value, s', tested, truthy, gives, later⟩ := step n last s h
      rw [bind_of_value tested, if_pos truthy, bind_of_value gives]
      exact ih later (Nat.lt_of_succ_lt_succ enough)

end Eval

/-! ### The loop -/

/-- `x < n` -/
def countingTest {σ : Type} (span : σ) : Expr σ :=
  .binary span .less (.var ⟨"x", span⟩) (.var ⟨"n", span⟩)

/-- `x = x + 1;` -/
def countingBody {σ : Type} (span : σ) : Stmt σ :=
  .expr span (.assign span ⟨"x", span⟩
    (.binary span .add (.var ⟨"x", span⟩) (.literal span (.integer 1))))

/-- `while (x < n) x = x + 1;` -/
def countingLoop {σ : Type} (span : σ) : Tree σ :=
  .script [.loop span (countingTest span) (countingBody span)]

theorem compile_countingLoop : ∃ unit,
    compile "while (x < n) x = x + 1;".toList .script = .ok unit ∧
      unit.tree.shape = countingLoop () := by
  have words : (tokenize "while (x < n) x = x + 1;".toList).map wordOf =
      .ok [.keyword .whileWord, mark .leftParen, .identifier "x", .sign .less, .identifier "n",
        mark .rightParen, .identifier "x", .sign .equals, .identifier "x", .sign .plus, .integer 1,
        mark .semicolon] := by
    decide +kernel
  have test : Phrase .assignment [.identifier "x", .sign .less, .identifier "n"] _ :=
    .binary .less (by decide) (.var "x") (.var "n")
  have sum : Phrase .assignment [.identifier "x", .sign .plus, .integer 1] _ :=
    .binary .add (by decide) (.var "x") (.literal (.integer 1))
  have body : Sentence true [.identifier "x", .sign .equals, .identifier "x", .sign .plus,
      .integer 1, mark .semicolon] _ :=
    .expr (.assign (by decide) (.var "x") sum)
  exact compile_of_words words (.script [⟨true, _, _⟩]
    (List.forall_mem_singleton.2 (.loop test body)) (List.pairwise_singleton ..))

/-! ### The rounds -/

theorem toInt_max (a b : Int64) : (max a b).toInt = max a.toInt b.toInt := by
  rw [show max a b = if a ≤ b then b else a from rfl]
  split <;> rename_i order <;> rw [Int64.le_iff_toInt_le] at order <;> omega

/-- A word below another one has a successor. -/
theorem exists_successor {a b : Int64} (below : a.toInt < b.toInt) :
    ∃ c : Int64, c.toInt = a.toInt + 1 := by
  by_contra none
  have low := Int64.le_toInt a
  have high := Int64.toInt_lt b
  have outside := no_word_iff.1 (not_exists.1 none)
  rw [Int64.toInt_minValue, Int64.toInt_maxValue] at outside
  omega

/-- The loop gives the larger number, which is the bound, unless it takes no round. -/
theorem value_counted (first bound : Int64) :
    (if max first bound = first then Value.null else .integer (max first bound)) =
      if first < bound then .integer bound else .null := by
  by_cases order : first.toInt < bound.toInt
  · have largest : max first bound = bound := Int64.toInt_inj.1 (by rw [toInt_max]; omega)
    have apart : bound ≠ first := by
      rintro rfl
      omega
    rw [largest, if_neg apart, if_pos (Int64.lt_iff_toInt_lt.2 order)]
  · have largest : max first bound = first := Int64.toInt_inj.1 (by rw [toInt_max]; omega)
    rw [largest, if_pos rfl, if_neg (mt Int64.lt_iff_toInt_lt.1 order)]

theorem less_apply_integers (strict : Bool) (a b : Int64) :
    BinaryOp.less.apply strict (.integer a) (.integer b) =
      .ok (.boolean (decide (a.toInt < b.toInt))) := by
  change Except.ok (Value.boolean (compare a.toInt b.toInt).isLT) = _
  congr 2
  rw [Bool.eq_iff_iff, Ordering.isLT_iff_eq_lt, Int.compare_eq_lt, decide_eq_true_iff]

theorem add_apply_one {a b : Int64} (strict : Bool) (next : b.toInt = a.toInt + 1) :
    BinaryOp.add.apply strict (.integer a) (.integer 1) = .ok (.integer b) := by
  have sum := Number.addition.standsFor_applyInts a 1
  rw [← sum.eq_integer (w := b) next]
  rfl

namespace Setting

variable (setting : Setting) {s : State} {a b : Int64} (span : Span)

theorem expression_countingTest (x : s.context.get? "x" = some (.integer a))
    (n : s.context.get? "n" = some (.integer b)) :
    setting.expression (countingTest span) s =
      (.value (.boolean (decide (a.toInt < b.toInt))), s) := by
  rw [countingTest, expression, Eval.bind_of_value (setting.variable_of_get? x),
    Eval.bind_of_value (setting.variable_of_get? n), less_apply_integers]
  rfl

theorem statement_countingBody (x : s.context.get? "x" = some (.integer a))
    (next : b.toInt = a.toInt + 1) :
    setting.statement (countingBody span) s =
      (.value (.integer b), { s with context := s.context.insert "x" (.integer b) }) := by
  have sum : setting.expression
      (.binary span .add (.var ⟨"x", span⟩) (.literal span (.integer 1))) s =
        (.value (.integer b), s) := by
    have one : setting.expression (.literal span (.integer 1)) s = (.value (.integer 1), s) := rfl
    rw [expression, Eval.bind_of_value (setting.variable_of_get? x), Eval.bind_of_value one,
      add_apply_one setting.strict next]
    rfl
  rw [countingBody, statement, expression, Eval.bind_of_value sum]
  rfl

/-- The states of the loop: `x` has gone from `first` to some word, this many rounds are to go up to
the bound, and nothing else has changed. -/
def Counting (start : State) (first bound : Int64) (rounds : Nat) (last : Value) (s : State) :
    Prop :=
  ∃ a : Int64, first.toInt ≤ a.toInt ∧ a.toInt + rounds = (max first bound).toInt ∧
    s = { start with context := start.context.insert "x" (.integer a) } ∧
    last = if a = first then .null else .integer a

variable {start : State} {first bound : Int64} {rounds : Nat} {last : Value}

/-- Both variables are bound in the states of the loop. -/
theorem get?_counting (n : start.context.get? "n" = some (.integer bound))
    (counted : s = { start with context := start.context.insert "x" (.integer a) }) :
    s.context.get? "x" = some (.integer a) ∧ s.context.get? "n" = some (.integer bound) := by
  subst counted
  exact ⟨by rw [Table.get?_insert, if_pos rfl], by rwa [Table.get?_insert, if_neg (by decide)]⟩

/-- A round of the loop takes `x` one further. -/
theorem counting_step (n : start.context.get? "n" = some (.integer bound))
    (h : Counting start first bound (rounds + 1) last s) : ∃ test value s',
      setting.expression (countingTest span) s = (.value test, s) ∧ test.isTruthy = true ∧
      setting.statement (countingBody span) s = (.value value, s') ∧
      Counting start first bound rounds value s' := by
  obtain ⟨a, above, left, state, -⟩ := h
  obtain ⟨x, n⟩ := get?_counting n state
  rw [toInt_max] at left
  -- some rounds are to go, so the larger of the two is the bound
  have below : a.toInt < bound.toInt := by omega
  obtain ⟨b, next⟩ := exists_successor below
  refine ⟨_, _, _, setting.expression_countingTest span x n, decide_eq_true below,
    setting.statement_countingBody span x next, b, by omega, by rw [toInt_max]; omega, ?_, ?_⟩
  · rw [state]
    simp only [Table.insert_insert]
  · have later : b ≠ first := by
      rintro rfl
      omega
    rw [if_neg later]

/-- The loop ends with `x` at the bound. -/
theorem counting_exit (n : start.context.get? "n" = some (.integer bound))
    (h : Counting start first bound 0 last s) : ∃ test,
      setting.expression (countingTest span) s = (.value test, s) ∧ test.isTruthy = false := by
  obtain ⟨a, above, left, state, -⟩ := h
  obtain ⟨x, n⟩ := get?_counting n state
  rw [toInt_max] at left
  exact ⟨_, setting.expression_countingTest span x n, decide_eq_false (by omega)⟩

theorem tree_countingLoop (x : start.context.get? "x" = some (.integer first))
    (n : start.context.get? "n" = some (.integer bound))
    (enough : (bound.toInt - first.toInt).toNat < setting.rounds) :
    setting.tree (countingLoop span) start =
      (.value (if first < bound then .integer bound else .null),
        { start with context := start.context.insert "x" (.integer (max first bound)) }) := by
  have begins : Counting start first bound (bound.toInt - first.toInt).toNat .null start := by
    refine ⟨first, Int.le_refl _, by rw [toInt_max]; omega, ?_, by rw [if_pos rfl]⟩
    rw [Table.insert_of_get? x]
  obtain ⟨value, s, ends, a, above, left, rfl, rfl⟩ := Eval.repeatWhile_of_invariant
    (fun _ _ _ => setting.counting_step span n) (fun _ _ => setting.counting_exit span n) begins
    enough
  obtain rfl : a = max first bound := Int64.toInt_inj.1 (by simpa using left)
  rw [countingLoop, tree, statements, if_neg (by simp [Stmt.isEmpty]), statement,
    Eval.bind_of_value ends, value_counted]
  rfl

end Setting

/-- The source `while (x < n) x = x + 1;` counts `x` up to the bound. Whatever the two integers are,
it ends with the larger one in `x` and nothing else changed, and gives what the last round gives, or
null without a round. Any limit to the rounds will do that is beyond the distance of the two. -/
theorem counting_loop_ends_at_bound : ∃ unit,
    compile "while (x < n) x = x + 1;".toList .script = .ok unit ∧
    ∀ (engine : Engine) (s : State) (first bound : Int64),
      s.context.get? "x" = some (.integer first) → s.context.get? "n" = some (.integer bound) →
      ∃ s', (∀ rounds, (bound.toInt - first.toInt).toNat < rounds →
          { engine with rounds }.evaluate unit s =
            (.value (if first < bound then .integer bound else .null), s')) ∧
        s'.context.get? "x" = some (.integer (max first bound)) ∧
        (∀ name, name ≠ "x" → s'.context.get? name = s.context.get? name) ∧
        s'.world = s.world := by
  obtain ⟨unit, compiled, shape⟩ := compile_countingLoop
  refine ⟨unit, compiled, fun engine s first bound x n => ?_⟩
  refine ⟨{ s with context := s.context.insert "x" (.integer (max first bound)) },
    fun rounds enough => ?_, ?_, fun name other => ?_, rfl⟩
  · let setting := { engine with rounds }.setting
    have same : (setting.tree unit.tree).unplaced =
        (setting.tree (countingLoop .nowhere)).unplaced :=
      setting.unplaced_of_shape shape
    refine Eval.eq_value_of_unplaced ?_
    rw [Engine.evaluate, same, Eval.unplaced, Eval.move,
      setting.tree_countingLoop .nowhere x n enough]
    rfl
  · rw [Table.get?_insert, if_pos rfl]
  · rw [Table.get?_insert, if_neg other]

/-- Counting up to the largest word, where another round would leave the words. -/
theorem counting_loop_ends_at_bound_largest : ∃ unit s',
    compile "while (x < n) x = x + 1;".toList .script = .ok unit ∧
    (Engine.ofTypes {} [] 3).evaluate unit
        ⟨(Table.empty.insert "x" (.integer 9223372036854775805)).insert "n"
          (.integer Int64.maxValue), .empty, .empty⟩ =
      (.value (.integer Int64.maxValue), s') ∧
    s'.context.get? "x" = some (.integer Int64.maxValue) := by
  obtain ⟨unit, compiled, each⟩ := counting_loop_ends_at_bound
  obtain ⟨s', ends, x, -⟩ := each (.ofTypes {} [] 3)
    ⟨(Table.empty.insert "x" (.integer 9223372036854775805)).insert "n"
      (.integer Int64.maxValue), .empty, .empty⟩
    9223372036854775805 Int64.maxValue rfl rfl
  have order : (9223372036854775805 : Int64) < Int64.maxValue := by decide
  refine ⟨unit, s', compiled, ?_, ?_⟩
  · have value := ends 3 (by decide)
    rwa [if_pos order] at value
  · have largest : max (9223372036854775805 : Int64) Int64.maxValue = Int64.maxValue := by decide
    rwa [largest] at x

end ExprScript
