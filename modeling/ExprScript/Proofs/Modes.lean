import ExprScript.Proofs.Eval.Sequencing
import ExprScript.Proofs.RoundTrip.Range

/-!
# Expressions as scripts

A source that is one expression can be compiled as such or as a script. The script has one
statement, which holds the very same expression and does what the expression does.
-/

namespace ExprScript

namespace Stream

variable {s : Stream} {e : Expr Span}

/-- An expression statement is alone up to the end of the input where an expression is. Ending with
a semicolon or without one is the same for both, since no brace is open. -/
theorem unit_expression_iff_script :
    (∃ r, (unit .expression s).Gives (.expression e) r) ↔
      ∃ span r, (unit .script s).Gives (.script [.expr span e]) r := by
  constructor
  · rintro ⟨r, gives⟩
    obtain ⟨_, m, found, same, behind, last⟩ := unit_expression.1 gives
    cases same
    have ended : Takes m [.punctuation .semicolon] r ∨ m = r ∧ AtEnd m := by
      rcases behind with semicolon | rfl
      · exact .inl semicolon
      · exact .inr ⟨rfl, .inr last⟩
    have statement : (statement s).Gives (.expr (s.current.span.extend r.last) e) r :=
      statement_gives.2 (.expr (expressionStatement_gives.2 ⟨e, m, found, rfl, ended⟩))
    exact ⟨_, r, unit_script.2 ⟨_, script_gives.2 ⟨.cons statement .nil, last⟩, rfl⟩⟩
  · rintro ⟨span, r, gives⟩
    obtain ⟨_, found, same⟩ := unit_script.1 gives
    cases same
    obtain ⟨sequence, last⟩ := script_gives.1 found
    obtain _ | ⟨statement, _ | _⟩ := sequence
    cases statement_gives.1 statement with
    | expr statement =>
      obtain ⟨_, m, found, same, ended⟩ := expressionStatement_gives.1 statement
      cases same
      have behind : Takes m [.punctuation .semicolon] r ∨ m = r := by
        rcases ended with semicolon | ⟨rfl, -⟩
        · exact .inl semicolon
        · exact .inr rfl
      exact ⟨r, unit_expression.2 ⟨e, m, found, rfl, behind, last⟩⟩

end Stream

theorem compile_expression_iff_script {source : List Char} {e : Expr Span} :
    compile source .expression = .ok ⟨source, .expression e⟩ ↔
      ∃ span, compile source .script = .ok ⟨source, .script [.expr span e]⟩ := by
  simp only [compile_eq_ok_iff, parse_eq_ok_iff, CompiledUnit.mk.injEq, true_and,
    exists_eq_right']
  constructor
  · rintro ⟨tokens, read, found⟩
    obtain ⟨span, found'⟩ := Stream.unit_expression_iff_script.1 found
    exact ⟨span, tokens, read, found'⟩
  · rintro ⟨span, tokens, read, found⟩
    exact ⟨tokens, read, Stream.unit_expression_iff_script.2 ⟨span, found⟩⟩

theorem expression_of_compile {source : List Char} {unit : CompiledUnit}
    (h : compile source .expression = .ok unit) : ∃ e, unit = ⟨source, .expression e⟩ := by
  have mode := (regular_of_compile h).1
  obtain ⟨_, _, tree, _, rfl⟩ := compile_eq_ok_iff.1 h
  cases tree with
  | expression e => exact ⟨e, rfl⟩
  | script body => cases mode

theorem Engine.evaluate_statement (engine : Engine) (source : List Char) (span : Span)
    (e : Expr Span) : engine.evaluate ⟨source, .script [.expr span e]⟩ =
      engine.evaluate ⟨source, .expression e⟩ := by
  change (engine.setting.expression e >>= fun value => pure value) = engine.setting.expression e
  exact Eval.bind_pure _

/-- A source that is an expression is a script of one statement that holds this expression, and the
other way around. Both do the same, their errors included. -/
theorem compile_modes_agree (source : List Char) :
    (∀ unit, compile source .expression = .ok unit → ∃ e span unit',
      unit.tree = .expression e ∧ unit'.tree = .script [.expr span e] ∧
      compile source .script = .ok unit' ∧
      ∀ engine : Engine, engine.evaluate unit = engine.evaluate unit') ∧
    ∀ e span unit', unit'.tree = .script [.expr span e] → compile source .script = .ok unit' →
      ∃ unit, unit.tree = .expression e ∧ compile source .expression = .ok unit ∧
        ∀ engine : Engine, engine.evaluate unit = engine.evaluate unit' := by
  constructor
  · intro unit compiled
    obtain ⟨e, rfl⟩ := expression_of_compile compiled
    obtain ⟨span, compiled'⟩ := compile_expression_iff_script.1 compiled
    exact ⟨e, span, _, rfl, rfl, compiled', fun engine =>
      (engine.evaluate_statement source span e).symm⟩
  · intro e span unit' single compiled'
    obtain ⟨tokens, read, tree, parsed, rfl⟩ := compile_eq_ok_iff.1 compiled'
    obtain rfl : tree = .script [.expr span e] := single
    exact ⟨_, rfl, compile_expression_iff_script.2 ⟨span, compiled'⟩, fun engine =>
      (engine.evaluate_statement source span e).symm⟩

/-- A conditional expression that a semicolon ends. -/
theorem compile_modes_agree_conditional : ∃ e span unit unit',
    compile "x ? y = 1 : -y;".toList .expression = .ok unit ∧ unit.tree = .expression e ∧
    compile "x ? y = 1 : -y;".toList .script = .ok unit' ∧ unit'.tree = .script [.expr span e] ∧
    ∀ engine : Engine, engine.evaluate unit = engine.evaluate unit' := by
  obtain ⟨unit, compiled⟩ := exists_of_isOk (x := compile "x ? y = 1 : -y;".toList .expression)
    (by decide +kernel)
  obtain ⟨e, span, unit', tree, tree', compiled', same⟩ :=
    (compile_modes_agree "x ? y = 1 : -y;".toList).1 unit compiled
  exact ⟨e, span, unit, unit', compiled, tree, compiled', tree', same⟩

end ExprScript
