import Mathlib.Logic.Relation
import ExprScript.Eval.Statement
import ExprScript.Proofs.Tree.Nodes

/-!
# Evaluations inside evaluations

Evaluating a part of a unit starts evaluations of other parts, each in the state that those before
it left.
-/

namespace ExprScript

/-- What is evaluated: a part of a unit, or the rounds that a loop has left. -/
inductive Code where
  | expression (e : Expr Span)
  | expressions (es : List (Expr Span))
  | statement (t : Stmt Span)
  | statements (body : List (Stmt Span))
  | rounds (condition : Expr Span) (body : Stmt Span) (left : Nat)

def Code.ofTree : Tree Span → Code
  | .expression body => .expression body
  | .script body => .statements body

/-- An evaluation and the state that it starts in. -/
structure Activation where
  code : Code
  state : State

namespace Expr

/-- The operands that are evaluated whatever they give. A chain of members has none where its dotted
name is bound as a whole. -/
def operands (context : Context) : Expr Span → List (Expr Span)
  | literal .. | var _ => []
  | unary _ _ operand => [operand]
  | logical _ _ lhs _ | elvis _ lhs _ => [lhs]
  | ternary _ condition _ _ => [condition]
  | assign _ _ value => [value]
  | get span target member =>
    if (context.dotted? (get span target member)).isSome then [] else [target]
  | binary _ _ lhs rhs => [lhs, rhs]
  | index _ target key => [target, key]
  | assignMember _ target _ value => [target, value]
  | assignIndex _ target key value => [target, key, value]
  | call _ target _ arguments => target :: arguments
  | builtin _ _ argument => [argument]

theorem operands_get (context : Context) (span : Span) (target : Expr Span) (member : Name Span) :
    (get span target member).operands context =
      if (context.dotted? (get span target member)).isSome then [] else [target] := rfl

/-- The operand that the value of the first one selects. -/
def selected? (first : Value) : Expr Span → Option (Expr Span)
  | logical _ op _ rhs => if first.isTruthy = (op == .and) then some rhs else none
  | ternary _ _ yes no => some (if first.isTruthy then yes else no)
  | elvis _ _ rhs => if first.isTruthy then none else some rhs
  | _ => none

theorem operands_subset (context : Context) (e : Expr Span) :
    e.operands context ⊆ e.children := by
  cases e with
  | get span target member =>
    rw [operands_get]
    split
    · exact List.nil_subset _
    · exact List.Subset.refl _
  | _ => simp [operands, children]

theorem selected_mem_children {e other : Expr Span} {first : Value}
    (h : e.selected? first = some other) : other ∈ e.children := by
  cases e with
  | logical span op lhs rhs =>
    obtain ⟨-, rfl⟩ : first.isTruthy = (op == .and) ∧ rhs = other := by
      simpa [selected?] using h
    simp [children]
  | ternary span condition yes no =>
    obtain rfl : (if first.isTruthy then yes else no) = other := by simpa [selected?] using h
    split <;> simp [children]
  | elvis span lhs rhs =>
    obtain ⟨-, rfl⟩ : first.isTruthy = false ∧ rhs = other := by simpa [selected?] using h
    simp [children]
  | _ => cases h

end Expr

namespace Setting

variable (setting : Setting)

/-- One evaluation starts another as a step of its own. There is a rule for each place where the
evaluation of a part is followed by that of another, with the state in between. -/
inductive Enters : Activation → Activation → Prop where
  | operands {e s} : Enters ⟨.expression e, s⟩ ⟨.expressions (e.operands s.context), s⟩
  | selected {e other s m first} :
    setting.expressions (e.operands s.context) s = (.value [first], m) →
    e.selected? first = some other → Enters ⟨.expression e, s⟩ ⟨.expression other, m⟩
  | first {e rest s} : Enters ⟨.expressions (e :: rest), s⟩ ⟨.expression e, s⟩
  | others {e rest s m value} : setting.expression e s = (.value value, m) →
    Enters ⟨.expressions (e :: rest), s⟩ ⟨.expressions rest, m⟩
  | expr {span e s} : Enters ⟨.statement (.expr span e), s⟩ ⟨.expression e, s⟩
  | block {span body s} : Enters ⟨.statement (.block span body), s⟩ ⟨.statements body, s⟩
  | thenTest {span test yes s} :
    Enters ⟨.statement (.ifThen span test yes), s⟩ ⟨.expression test, s⟩
  | thenBody {span test yes s m value} : setting.expression test s = (.value value, m) →
    value.isTruthy = true → Enters ⟨.statement (.ifThen span test yes), s⟩ ⟨.statement yes, m⟩
  | elseTest {span test yes no s} :
    Enters ⟨.statement (.ifElse span test yes no), s⟩ ⟨.expression test, s⟩
  | elseBody {span test yes no s m value} : setting.expression test s = (.value value, m) →
    Enters ⟨.statement (.ifElse span test yes no), s⟩
      ⟨.statement (if value.isTruthy then yes else no), m⟩
  | loop {span test body s} :
    Enters ⟨.statement (.loop span test body), s⟩ ⟨.rounds test body setting.rounds, s⟩
  | roundTest {test body left s} : Enters ⟨.rounds test body (left + 1), s⟩ ⟨.expression test, s⟩
  | roundBody {test body left s m value} : setting.expression test s = (.value value, m) →
    value.isTruthy = true → Enters ⟨.rounds test body (left + 1), s⟩ ⟨.statement body, m⟩
  | nextRound {test body left s m m' value value'} :
    setting.expression test s = (.value value, m) → value.isTruthy = true →
    setting.statement body m = (.value value', m') →
    Enters ⟨.rounds test body (left + 1), s⟩ ⟨.rounds test body left, m'⟩
  | skip {t rest s} : t.isEmpty = true → Enters ⟨.statements (t :: rest), s⟩ ⟨.statements rest, s⟩
  | head {t rest s} : t.isEmpty = false → Enters ⟨.statements (t :: rest), s⟩ ⟨.statement t, s⟩
  | tail {t rest s m value} : t.isEmpty = false → setting.statement t s = (.value value, m) →
    Enters ⟨.statements (t :: rest), s⟩ ⟨.statements rest, m⟩

/-- One evaluation is, or starts in any number of steps, another one. -/
def Visits : Activation → Activation → Prop := Relation.ReflTransGen setting.Enters

end Setting

/-! ### What is evaluated is part of the code -/

/-- The expressions in a code. -/
def Code.exprs : Code → List (Expr Span)
  | expression e => e.nodes
  | expressions es => Expr.nodesOfAll es
  | statement t => t.exprs
  | statements body => Stmt.exprsOfAll body
  | rounds condition body _ => condition.nodes ++ body.exprs

theorem Code.exprs_ofTree (t : Tree Span) : (Code.ofTree t).exprs = t.exprs := by
  cases t <;> rfl

/-- The evaluations that an evaluation starts are of expressions of its code. -/
theorem Setting.Enters.exprs {setting : Setting} {a b : Activation} (h : setting.Enters a b) :
    b.code.exprs ⊆ a.code.exprs := by
  intro n listed
  cases h with
  | @operands e s =>
    refine Expr.nodesOfAll_subset (fun child among => ?_) listed
    exact Expr.nodes_subset_of_mem_children (Expr.operands_subset s.context e among)
  | selected _ selected =>
    exact Expr.nodes_subset_of_mem_children (Expr.selected_mem_children selected) listed
  | elseBody =>
    simp only [Code.exprs] at listed
    split at listed <;> simp [Code.exprs, Stmt.exprs, listed]
  | _ => simp_all [Code.exprs, Expr.nodesOfAll, Stmt.exprs, Stmt.exprsOfAll]

theorem Setting.Visits.exprs {setting : Setting} {a b : Activation} (h : setting.Visits a b) :
    b.code.exprs ⊆ a.code.exprs := by
  induction h with
  | refl => exact List.Subset.refl _
  | tail _ enters ih => exact List.Subset.trans enters.exprs ih

/-! ### Sequences that give values -/

namespace Eval

variable {α β : Type} {s : State} {m : Eval α} {f : α → Eval β}

/-- A sequence gives a value only if both parts do. -/
theorem of_bind_value {b : β} {s'' : State} (h : (m >>= f) s = (.value b, s'')) :
    ∃ a s', m s = (.value a, s') ∧ f a s' = (.value b, s'') := by
  simp only [Bind.bind] at h
  rcases ran : m s with ⟨a | e | _, s'⟩
  · rw [ran] at h
    exact ⟨a, s', rfl, h⟩
  · rw [ran] at h
    cases h
  · rw [ran] at h
    cases h

theorem bind_of_value {a : α} {s' : State} (ran : m s = (.value a, s')) :
    (m >>= f) s = f a s' := by
  simp only [Bind.bind, ran]

end Eval

namespace Setting

open Eval

variable {setting : Setting} {s m : State} {e : Expr Span} {rest : List (Expr Span)}

theorem expressions_cons {m' : State} {v : Value} {vs : List Value}
    (first : setting.expression e s = (.value v, m))
    (others : setting.expressions rest m = (.value vs, m')) :
    setting.expressions (e :: rest) s = (.value (v :: vs), m') := by
  rw [expressions, bind_of_value first, bind_of_value others]
  rfl

theorem of_expressions_cons {m' : State} {vs : List Value}
    (ran : setting.expressions (e :: rest) s = (.value vs, m')) :
    ∃ v vs' m, setting.expression e s = (.value v, m) ∧
      setting.expressions rest m = (.value vs', m') ∧ vs = v :: vs' := by
  obtain ⟨v, m, first, ran⟩ := of_bind_value ran
  obtain ⟨vs', m'', others, ran⟩ := of_bind_value ran
  cases ran
  exact ⟨v, vs', m, first, others, rfl⟩

theorem expressions_single {v : Value} (ran : setting.expression e s = (.value v, m)) :
    setting.expressions [e] s = (.value [v], m) :=
  expressions_cons ran rfl

theorem of_expressions_single {v : Value} (ran : setting.expressions [e] s = (.value [v], m)) :
    setting.expression e s = (.value v, m) := by
  obtain ⟨v', _, m', first, others, same⟩ := of_expressions_cons ran
  cases others
  cases same
  exact first

theorem expression_get_bound {span : Span} {target : Expr Span} {member : Name Span} {v : Value}
    (bound : s.context.dotted? (.get span target member) = some v) :
    setting.expression (.get span target member) s = (.value v, s) := by
  simp only [expression, bind, context, bound]
  rfl

theorem expression_get_unbound {span : Span} {target : Expr Span} {member : Name Span}
    (unbound : s.context.dotted? (.get span target member) = none) :
    setting.expression (.get span target member) s =
      (setting.expression target >>= fun object => setting.read span object member.text) s := by
  simp only [expression, bind, context, unbound]

end Setting

end ExprScript
