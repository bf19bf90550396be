import ExprScript.Engine
import ExprScript.Proofs.Eval.Walks

/-!
# Where errors are placed

An error of a unit is that of one of its expressions, all of whose parts gave values as far as they
were evaluated. It is placed there, or on the name of the method when a call failed: no expression,
loop or statement around the culprit changes the place.
-/

namespace ExprScript

namespace Setting

open Eval

variable {setting : Setting} {s m : State}

/-! ### What an expression with a value is made of has values -/

/-- The operands of an expression that gives a value give values. -/
theorem operands_give {e : Expr Span} {v : Value} (ran : setting.expression e s = (.value v, m)) :
    ∃ vs m', setting.expressions (e.operands s.context) s = (.value vs, m') := by
  cases e with
  | literal | var => exact ⟨[], s, rfl⟩
  | unary | logical | ternary | elvis | assign | builtin =>
    obtain ⟨value, m', ran, -⟩ := of_bind_value ran
    exact ⟨_, _, expressions_single ran⟩
  | get span target member =>
    rw [Expr.operands_get]
    split
    · exact ⟨[], s, rfl⟩
    · rename_i unbound
      rw [expression_get_unbound (by simpa using unbound)] at ran
      obtain ⟨value, m', ran, -⟩ := of_bind_value ran
      exact ⟨_, _, expressions_single ran⟩
  | binary | index | assignMember =>
    obtain ⟨left, m', first, ran⟩ := of_bind_value ran
    obtain ⟨right, m'', second, -⟩ := of_bind_value ran
    exact ⟨_, _, expressions_cons first (expressions_single second)⟩
  | assignIndex =>
    obtain ⟨object, m', first, ran⟩ := of_bind_value ran
    obtain ⟨name, m'', second, ran⟩ := of_bind_value ran
    obtain ⟨value, m''', third, -⟩ := of_bind_value ran
    exact ⟨_, _, expressions_cons first (expressions_cons second (expressions_single third))⟩
  | call =>
    obtain ⟨object, m', first, ran⟩ := of_bind_value ran
    obtain ⟨values, m'', others, -⟩ := of_bind_value ran
    exact ⟨_, _, expressions_cons first others⟩

/-- So does the operand that the first one selects. -/
theorem selected_gives {e other : Expr Span} {first v : Value} {m' : State}
    (operands : setting.expressions (e.operands s.context) s = (.value [first], m))
    (selected : e.selected? first = some other)
    (ran : setting.expression e s = (.value v, m')) :
    ∃ v' m'', setting.expression other m = (.value v', m'') := by
  cases e with
  | logical span op lhs rhs =>
    obtain ⟨reached, rfl⟩ : first.isTruthy = (op == .and) ∧ rhs = other := by
      simpa [Expr.selected?] using selected
    rw [expression, bind_of_value (of_expressions_single operands)] at ran
    cases op <;> simp only [reached] at ran <;>
      · obtain ⟨value, m'', ran, -⟩ := of_bind_value ran
        exact ⟨value, m'', ran⟩
  | ternary span condition yes no =>
    obtain rfl : (if first.isTruthy then yes else no) = other := by
      simpa [Expr.selected?] using selected
    rw [expression, bind_of_value (of_expressions_single operands)] at ran
    split at ran <;> rename_i truth <;> simp only [truth] <;> exact ⟨_, _, ran⟩
  | elvis span lhs rhs =>
    obtain ⟨reached, rfl⟩ : first.isTruthy = false ∧ rhs = other := by
      simpa [Expr.selected?] using selected
    rw [expression, bind_of_value (of_expressions_single operands)] at ran
    simp only [reached] at ran
    exact ⟨_, _, ran⟩
  | _ => cases selected

/-- The evaluation is one of expressions and gives a value. -/
inductive Gives (setting : Setting) : Activation → Prop where
  | expression {e s m v} : setting.expression e s = (.value v, m) → Gives setting ⟨.expression e, s⟩
  | expressions {es s m vs} :
    setting.expressions es s = (.value vs, m) → Gives setting ⟨.expressions es, s⟩

/-- Every evaluation inside one of an expression that gives a value gives a value. -/
theorem Gives.enters {a b : Activation} (h : setting.Gives a) (enters : setting.Enters a b) :
    setting.Gives b := by
  cases h with
  | expression ran =>
    cases enters with
    | operands =>
      obtain ⟨vs, m', ran⟩ := operands_give ran
      exact .expressions ran
    | selected operands selected =>
      obtain ⟨v', m'', ran⟩ := selected_gives operands selected ran
      exact .expression ran
  | expressions ran =>
    cases enters with
    | first =>
      obtain ⟨v, vs, m, ran, -, -⟩ := of_expressions_cons ran
      exact .expression ran
    | others first =>
      obtain ⟨v, vs, m, first', ran, -⟩ := of_expressions_cons ran
      cases first.symm.trans first'
      exact .expressions ran

theorem Gives.visits {a b : Activation} (h : setting.Gives a) (visits : setting.Visits a b) :
    setting.Gives b := by
  induction visits with
  | refl => exact h
  | tail _ enters ih => exact ih.enters enters

/-! ### Culprits -/

/-- In an evaluation the error comes from the expression `n`, evaluated in state `m`: it fails while
all expressions that are evaluated inside it give values, and the error is placed at it. -/
structure Culprit (setting : Setting) (a : Activation) (err : EvalError) (n : Expr Span)
    (m : State) : Prop where
  visited : setting.Visits a ⟨.expression n, m⟩
  failed : (setting.expression n m).1 = .error err
  inner : ∀ part m', Relation.TransGen setting.Enters ⟨.expression n, m⟩ ⟨.expression part, m'⟩ →
    ∃ v, (setting.expression part m').1 = .value v
  place : err.span = n.blamed

/-- All errors with a culprit in the evaluation are as `P` says. -/
def Blaming (setting : Setting) (P : EvalError → Prop) (a : Activation) : Prop :=
  ∀ err n m, setting.Culprit a err n m → P err

variable {P : EvalError → Prop}

theorem span_of_blame {α : Type} {span : Span} {result : Except EvalCause α} {err : EvalError}
    (failed : blame span result = .error err) : err.span = span := by
  cases result <;> cases failed
  rfl

/-- An error of the own step of an expression is placed where this expression is blamed. -/
theorem step_place {e : Expr Span} {vs : List Value} {own : Eval Value} {err : EvalError}
    (step : e.Step vs own) (failed : (own s).1 = .error err) : err.span = e.blamed := by
  cases step with
  | result result => exact span_of_blame failed
  | use step => exact span_of_blame failed
  | write step v =>
    simp only [Bind.bind, attemptOn] at failed
    generalize (step s.world).1 = result at failed
    cases result <;> cases failed
    rfl
  | bind => cases failed

/-- Errors are handed on unchanged, and that of the own step of an expression has this expression as
its culprit, since all operands gave values and none is selected. -/
theorem Blaming.walk {a : Activation} (blaming : setting.Blaming P a) :
    setting.Walk a fun _ r => ∀ err, r.1 = .error err → P err where
  value _ _ := by rintro _ ⟨⟩
  exhausted _ := by rintro _ ⟨⟩
  bind {_ _ m f s} first next := by
    intro err failed
    simp only [Bind.bind] at failed
    generalize ran : m s = r at first failed
    rcases r with ⟨value | error | exhausted, s'⟩
    · exact next value s' ran err failed
    · cases failed
      exact first err rfl
    · cases failed
  step {e s m vs} own visits unselecting operands step left := by
    intro err failed
    have failed' := (congrArg Prod.fst left).trans failed
    refine blaming err e s ⟨visits, failed', fun part m' inside => ?_, step_place step failed⟩
    obtain ⟨b, enters, visits⟩ := Relation.TransGen.head'_iff.1 inside
    have gives : setting.Gives b := by
      cases enters with
      | operands => exact .expressions operands
      | selected _ selected => cases (unselecting _).symm.trans selected
    cases gives.visits visits with
    | expression ran => exact ⟨_, congrArg Prod.fst ran⟩

end Setting

end ExprScript
