import ExprScript.Eval.Statement
import ExprScript.Proofs.Grammar.Shape

/-!
# Evaluation of moved trees

Evaluation reads the spans of a tree only to blame them. A tree with other spans does what the tree
does and fails where it fails, with the other span to blame.
-/

namespace ExprScript

variable {α β : Type}

/-- The outcome with another span to blame. -/
def Outcome.move (f : Span → Span) : Outcome α → Outcome α
  | .value a => .value a
  | .error e => .error ⟨f e.span, e.cause⟩
  | .exhausted => .exhausted

namespace Eval

variable {f : Span → Span}

/-- The evaluation with another span to blame. -/
def move (f : Span → Span) (m : Eval α) : Eval α := fun s => ((m s).1.move f, (m s).2)

/-- What an evaluation does apart from the place that it blames for an error. -/
def unplaced (m : Eval α) : Eval α := m.move fun _ => .nowhere

theorem move_pure (a : α) : (pure a : Eval α).move f = pure a := rfl

theorem move_context : context.move f = context := rfl

theorem move_bindVariable (name : String) (v : Value) :
    (bindVariable name v).move f = bindVariable name v := rfl

theorem move_attempt (span : Span) (result : Except EvalCause α) :
    (attempt span result).move f = attempt (f span) result := by
  cases result <;> rfl

theorem move_attemptOn (span : Span) (step : World → Except EvalCause α × World) :
    (attemptOn span step).move f = attemptOn (f span) step := by
  funext s
  simp only [move, attemptOn]
  cases (step s.world).1 <;> rfl

theorem move_bind (m : Eval α) (g : α → Eval β) :
    (m >>= g).move f = m.move f >>= fun a => (g a).move f := by
  funext s
  simp only [move, bind]
  rcases m s with ⟨value | error | exhausted, s'⟩ <;> rfl

theorem move_repeatWhile (condition body : Eval Value) (rounds : Nat) (last : Value) :
    (repeatWhile condition body rounds last).move f =
      repeatWhile (condition.move f) (body.move f) rounds last := by
  induction rounds generalizing last with
  | zero => rfl
  | succ rounds ih =>
    simp only [repeatWhile, move_bind]
    congr
    funext test
    split
    · simp only [move_bind, ih]
    · rfl

end Eval

namespace Expr

variable (f : Span → Span)

theorem pathRoot?_map (e : Expr Span) : (e.map f).pathRoot? = e.pathRoot? := by
  cases e with
  | get span target member => exact pathRoot?_map target
  | _ => rfl

theorem dottedPath?_map (e : Expr Span) : (e.map f).dottedPath? = e.dottedPath? := by
  cases e with
  | get span target member =>
    simp only [map, dottedPath?, dottedPath?_map target]
    rfl
  | _ => rfl

end Expr

theorem Context.dotted?_map (f : Span → Span) (context : Context) (e : Expr Span) :
    context.dotted? (e.map f) = context.dotted? e := by
  simp only [dotted?, Expr.pathRoot?_map, Expr.dottedPath?_map]

namespace Setting

open Eval

variable (setting : Setting) (f : Span → Span)

theorem move_read (span : Span) (target : Value) (name : String) :
    (setting.read span target name).move f = setting.read (f span) target name :=
  move_attemptOn span _

theorem move_write (span : Span) (target : Value) (name : String) (v : Value) :
    (setting.write span target name v).move f = setting.write (f span) target name v := by
  simp only [write, move_bind, move_attemptOn, move_pure]

mutual

theorem expression_map (e : Expr Span) :
    setting.expression (e.map f) = (setting.expression e).move f := by
  cases e with
  | literal span value => rfl
  | var name =>
    simp only [Expr.map, expression, move_bind, move_context, move_attempt]
    rfl
  | binary span op lhs rhs =>
    simp only [Expr.map, expression, move_bind, move_attempt, expression_map lhs,
      expression_map rhs]
  | unary span op operand =>
    simp only [Expr.map, expression, move_bind, move_attempt, expression_map operand]
  | logical span op lhs rhs =>
    simp only [Expr.map, expression, move_bind, expression_map lhs, expression_map rhs]
    have other : (setting.expression rhs >>= fun v => pure (Value.boolean v.isTruthy)).move f =
        (setting.expression rhs).move f >>= fun v => pure (Value.boolean v.isTruthy) :=
      move_bind _ _
    congr
    funext left
    cases op <;> cases left.isTruthy
    · rfl
    · exact other.symm
    · exact other.symm
    · rfl
  | ternary span condition yes no =>
    simp only [Expr.map, expression, move_bind, expression_map condition]
    congr
    funext test
    split
    · exact expression_map yes
    · exact expression_map no
  | elvis span lhs rhs =>
    simp only [Expr.map, expression, move_bind, expression_map lhs]
    congr
    funext value
    split
    · rfl
    · exact expression_map rhs
  | assign span name value =>
    simp only [Expr.map, expression, move_bind, move_bindVariable, move_pure, expression_map value]
    rfl
  | get span target member =>
    have path (context : Context) :
        context.dotted? (.get (f span) (target.map f) (member.map f)) =
          context.dotted? (.get span target member) :=
      context.dotted?_map f (.get span target member)
    simp only [Expr.map, expression, move_bind, move_context, path, expression_map target]
    congr
    funext context
    split
    · rfl
    · simp only [move_bind, move_read]
      rfl
  | index span target key =>
    simp only [Expr.map, expression, move_bind, move_read, expression_map target,
      expression_map key]
  | assignMember span target member value =>
    simp only [Expr.map, expression, move_bind, move_write, expression_map target,
      expression_map value]
    rfl
  | assignIndex span target key value =>
    simp only [Expr.map, expression, move_bind, move_write, expression_map target,
      expression_map key, expression_map value]
  | call span target method arguments =>
    simp only [Expr.map, expression, move_bind, move_attemptOn, expression_map target,
      expressions_map arguments]
    rfl
  | builtin span function argument =>
    simp only [Expr.map, expression, move_bind, move_attemptOn, expression_map argument]

theorem expressions_map (es : List (Expr Span)) :
    setting.expressions (Expr.mapAll f es) = (setting.expressions es).move f := by
  cases es with
  | nil => rfl
  | cons e rest =>
    simp only [Expr.mapAll, expressions, move_bind, move_pure, expression_map e,
      expressions_map rest]

end

theorem isEmpty_map (s : Stmt Span) : (s.map f).isEmpty = s.isEmpty := by
  cases s <;> rfl

mutual

theorem statement_map (s : Stmt Span) :
    setting.statement (s.map f) = (setting.statement s).move f := by
  cases s with
  | expr span body => exact setting.expression_map f body
  | block span body => exact statements_map body .null
  | ifThen span condition yes =>
    simp only [Stmt.map, statement, move_bind, expression_map]
    congr
    funext test
    split
    · exact statement_map yes
    · rfl
  | ifElse span condition yes no =>
    simp only [Stmt.map, statement, move_bind, expression_map]
    congr
    funext test
    split
    · exact statement_map yes
    · exact statement_map no
  | loop span condition body =>
    simp only [Stmt.map, statement, move_repeatWhile, expression_map, statement_map body]
  | empty span => rfl

/-- Statements somewhere else do what the statements do. -/
theorem statements_map (body : List (Stmt Span)) (last : Value) :
    setting.statements (Stmt.mapAll f body) last = (setting.statements body last).move f := by
  cases body with
  | nil => rfl
  | cons s rest =>
    rw [Stmt.mapAll, statements, statements, isEmpty_map]
    split
    · exact statements_map rest last
    · simp only [move_bind, statement_map s, statements_map rest]

end

theorem tree_map (t : Tree Span) : setting.tree (t.map f) = (setting.tree t).move f := by
  cases t with
  | expression body => exact setting.expression_map f body
  | script body => exact setting.statements_map f body .null

/-- Trees of one shape do the same, but for the places that they blame. -/
theorem unplaced_of_shape {t t' : Tree Span} (h : t.shape = t'.shape) :
    (setting.tree t).unplaced = (setting.tree t').unplaced := by
  have erased (t : Tree Span) : t.map (fun _ => Span.nowhere) = t.shape.map fun _ => .nowhere :=
    (t.map_map (fun _ => ()) fun _ => Span.nowhere).symm
  calc (setting.tree t).unplaced
    _ = setting.tree (t.map fun _ => .nowhere) := (setting.tree_map _ t).symm
    _ = setting.tree (t'.map fun _ => .nowhere) := by rw [erased, erased, h]
    _ = (setting.tree t').unplaced := setting.tree_map _ t'

end Setting

end ExprScript
