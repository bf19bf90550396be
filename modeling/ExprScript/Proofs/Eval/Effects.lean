import ExprScript.Eval.Statement
import ExprScript.Proofs.Host.Uses

/-!
# The effects of an evaluation

An evaluation binds variables, uses members and applies builtins, one after the other. These are its
effects. They are told in the order in which they happen, also when an error ends them early.
-/

namespace ExprScript

/-- A step of an evaluation that can change the state. -/
inductive Effect where
  | bind (name : String) (v : Value)
  | use (target : Value) (member : String) (use : Use)
  | apply (function : Builtin) (argument : Value)

namespace Eval

variable {α : Type}

/-- The effects of an evaluation, then those of what its value is handed to, if it gives one. -/
def effectsThen (m : Eval α) (effects : State → List Effect) (next : α → State → List Effect) :
    State → List Effect :=
  fun s => effects s ++ match m s with
    | (.value a, s') => next a s'
    | _ => []

/-- The effects of a loop, by those of its condition and its body. -/
def repeatEffects (condition body : Eval Value)
    (conditionEffects bodyEffects : State → List Effect) : Nat → State → List Effect
  | 0 => fun _ => []
  | rounds + 1 => effectsThen condition conditionEffects fun test =>
    if test.isTruthy then
      effectsThen body bodyEffects fun _ =>
        repeatEffects condition body conditionEffects bodyEffects rounds
    else fun _ => []

end Eval

namespace Setting

open Eval

mutual

/-- The effects of evaluating an expression in a state. -/
def expressionEffects (setting : Setting) : Expr Span → State → List Effect
  | .literal .. | .var _ => fun _ => []
  | .binary _ _ lhs rhs =>
    effectsThen (setting.expression lhs) (setting.expressionEffects lhs) fun _ =>
      setting.expressionEffects rhs
  | .unary _ _ operand => setting.expressionEffects operand
  | .logical _ op lhs rhs =>
    effectsThen (setting.expression lhs) (setting.expressionEffects lhs) fun left =>
      if left.isTruthy = (op == .and) then setting.expressionEffects rhs else fun _ => []
  | .ternary _ condition yes no =>
    effectsThen (setting.expression condition) (setting.expressionEffects condition) fun test =>
      if test.isTruthy then setting.expressionEffects yes else setting.expressionEffects no
  | .elvis _ lhs rhs =>
    effectsThen (setting.expression lhs) (setting.expressionEffects lhs) fun value =>
      if value.isTruthy then fun _ => [] else setting.expressionEffects rhs
  | .assign _ name value =>
    effectsThen (setting.expression value) (setting.expressionEffects value) fun v _ =>
      [.bind name.text v]
  | .get span target member => fun s =>
    if (s.context.dotted? (.get span target member)).isSome then []
    else
      effectsThen (setting.expression target) (setting.expressionEffects target)
        (fun object _ => [.use object member.text .get]) s
  | .index _ target key =>
    effectsThen (setting.expression target) (setting.expressionEffects target) fun object =>
      effectsThen (setting.expression key) (setting.expressionEffects key) fun name _ =>
        [.use object name.render .get]
  | .assignMember _ target member value =>
    effectsThen (setting.expression target) (setting.expressionEffects target) fun object =>
      effectsThen (setting.expression value) (setting.expressionEffects value) fun v _ =>
        [.use object member.text (.set v)]
  | .assignIndex _ target key value =>
    effectsThen (setting.expression target) (setting.expressionEffects target) fun object =>
      effectsThen (setting.expression key) (setting.expressionEffects key) fun name =>
        effectsThen (setting.expression value) (setting.expressionEffects value) fun v _ =>
          [.use object name.render (.set v)]
  | .call _ target method arguments =>
    effectsThen (setting.expression target) (setting.expressionEffects target) fun object =>
      effectsThen (setting.expressions arguments) (setting.expressionsEffects arguments)
        fun values _ => [.use object method.text (.call values)]
  | .builtin _ function argument =>
    effectsThen (setting.expression argument) (setting.expressionEffects argument) fun v _ =>
      [.apply function v]

@[inherit_doc expressionEffects]
def expressionsEffects (setting : Setting) : List (Expr Span) → State → List Effect
  | [] => fun _ => []
  | e :: rest =>
    effectsThen (setting.expression e) (setting.expressionEffects e) fun _ =>
      setting.expressionsEffects rest

end

mutual

/-- The effects of executing a statement in a state. -/
def statementEffects (setting : Setting) : Stmt Span → State → List Effect
  | .expr _ body => setting.expressionEffects body
  | .block _ body => setting.statementsEffects body
  | .ifThen _ condition yes =>
    effectsThen (setting.expression condition) (setting.expressionEffects condition) fun test =>
      if test.isTruthy then setting.statementEffects yes else fun _ => []
  | .ifElse _ condition yes no =>
    effectsThen (setting.expression condition) (setting.expressionEffects condition) fun test =>
      if test.isTruthy then setting.statementEffects yes else setting.statementEffects no
  | .loop _ condition body =>
    repeatEffects (setting.expression condition) (setting.statement body)
      (setting.expressionEffects condition) (setting.statementEffects body) setting.rounds
  | .empty _ => fun _ => []

@[inherit_doc statementEffects]
def statementsEffects (setting : Setting) : List (Stmt Span) → State → List Effect
  | [] => fun _ => []
  | t :: rest =>
    if t.isEmpty then setting.statementsEffects rest
    else
      effectsThen (setting.statement t) (setting.statementEffects t) fun _ =>
        setting.statementsEffects rest

end

/-- The effects of evaluating a unit in a state. -/
def treeEffects (setting : Setting) : Tree Span → State → List Effect
  | .expression body => setting.expressionEffects body
  | .script body => setting.statementsEffects body

/-- The state that an effect leads to. -/
def perform (setting : Setting) (s : State) : Effect → State
  | .bind name v => { s with context := s.context.insert name v }
  | .use target member use =>
    { s with
      world := (setting.resolve.useMember target member use.access use.arguments s.world).2 }
  | .apply function argument =>
    { s with world := (setting.resolve.applyBuiltin function argument s.world).2 }

/-- The state that effects one after the other lead to. -/
def replay (setting : Setting) (s : State) (effects : List Effect) : State :=
  effects.foldl setting.perform s

theorem replay_append (setting : Setting) (s : State) (before after : List Effect) :
    setting.replay s (before ++ after) = setting.replay (setting.replay s before) after :=
  List.foldl_append

end Setting

end ExprScript
