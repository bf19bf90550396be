import ExprScript.Proofs.Eval.Visits
import ExprScript.Proofs.Modes

/-!
# What a source does

The tokens of a source have a derivation, and the source compiles to trees of its shape. Trees of
one shape do the same, so what a source does can be told on any of them, whatever the places of its
nodes.
-/

namespace ExprScript

open Grammar

/-- An evaluation that gives a value does so whatever place it would blame for an error. -/
theorem Eval.eq_value_of_unplaced {α : Type} {m : Eval α} {a : α} {s s' : State}
    (h : m.unplaced s = (.value a, s')) : m s = (.value a, s') := by
  obtain ⟨outcome, same⟩ := Prod.mk.inj h
  revert outcome same
  rcases m s with ⟨value | error | exhausted, _⟩
  · rintro ⟨⟩ rfl
    rfl
  · rintro ⟨⟩
  · rintro ⟨⟩

theorem Setting.variable_of_get? (setting : Setting) {s : State} {name : Name Span} {v : Value}
    (bound : s.context.get? name.text = some v) :
    setting.expression (.var name) s = (.value v, s) := by
  have read : Eval.context s = (.value s.context, s) := rfl
  rw [expression, Eval.bind_of_value read, variableValue, bound]
  rfl

section

variable {source : List Char} {word : List Token}
  (words : (tokenize source).map wordOf = .ok word)

include words

theorem compile_of_words {mode : Mode} {d : Tree Parens} (whole : Whole mode word d) :
    ∃ unit, compile source mode = .ok unit ∧ unit.tree.shape = d.shape := by
  cases read : tokenize source with
  | error e =>
    rw [read] at words
    cases words
  | ok tokens =>
    rw [read] at words
    obtain rfl : wordOf tokens = word := Except.ok.inj words
    exact (compile_iff_whole read).2 ⟨d, whole, rfl⟩

/-- A source whose tokens are a phrase compiles in either mode, and does what any expression of the
shape of the phrase does. -/
theorem evaluates_of_phrase {d : Expr Parens} (phrase : Phrase .assignment word d) (mode : Mode) :
    ∃ unit, compile source mode = .ok unit ∧
      ∀ (engine : Engine) (e : Expr Span) (v : Value) (s s' : State), e.shape = d.shape →
        engine.setting.expression e s = (.value v, s') →
        engine.evaluate unit s = (.value v, s') := by
  obtain ⟨unit, compiled, same⟩ := compile_of_words words (.expression phrase)
  obtain ⟨e', rfl⟩ := expression_of_compile compiled
  have evaluates (engine : Engine) (e : Expr Span) (v : Value) (s s' : State)
      (shape : e.shape = d.shape) (gives : engine.setting.expression e s = (.value v, s')) :
      engine.evaluate ⟨source, .expression e'⟩ s = (.value v, s') := by
    have shapes : (Tree.expression e').shape = (Tree.expression e).shape :=
      same.trans (congrArg Tree.expression shape.symm)
    refine Eval.eq_value_of_unplaced ?_
    rw [Engine.evaluate, engine.setting.unplaced_of_shape shapes, Eval.unplaced, Eval.move,
      Setting.tree, gives]
    rfl
  cases mode with
  | expression => exact ⟨_, compiled, evaluates⟩
  | script =>
    obtain ⟨span, compiled'⟩ := compile_expression_iff_script.1 compiled
    refine ⟨_, compiled', fun engine e v s s' shape gives => ?_⟩
    rw [engine.evaluate_statement]
    exact evaluates engine e v s s' shape gives

end

end ExprScript
