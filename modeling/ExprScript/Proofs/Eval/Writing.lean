import ExprScript.Engine
import ExprScript.Proofs.Eval.Walks

/-!
# What an evaluation writes to its variables

Only assignments to variables change the context. A variable that no part of a unit assigns to keeps
its binding, and so does one whose assignments all fail before they bind it. Members, builtins and
dotted names leave all variables alone, and no variable is ever unbound again.
-/

namespace ExprScript

variable {σ : Type}

namespace Expr

mutual

/-- The names that an expression assigns to in some part of it. -/
def targets : Expr σ → List String
  | literal .. | var _ => []
  | unary _ _ operand => operand.targets
  | binary _ _ lhs rhs | logical _ _ lhs rhs | elvis _ lhs rhs => lhs.targets ++ rhs.targets
  | ternary _ condition yes no => condition.targets ++ yes.targets ++ no.targets
  | assign _ name value => name.text :: value.targets
  | get _ target _ => target.targets
  | index _ target key => target.targets ++ key.targets
  | assignMember _ target _ value => target.targets ++ value.targets
  | assignIndex _ target key value => target.targets ++ key.targets ++ value.targets
  | call _ target _ arguments => target.targets ++ targetsOfAll arguments
  | builtin _ _ argument => argument.targets

/-- The names that the expressions of a list assign to. -/
def targetsOfAll : List (Expr σ) → List String
  | [] => []
  | e :: rest => e.targets ++ targetsOfAll rest

end

/-- Whether the expression reads or writes a property, calls a method or a builtin. -/
def isAccess : Expr σ → Bool
  | get .. | index .. | assignMember .. | assignIndex .. | call .. | builtin .. => true
  | _ => false

end Expr

namespace Stmt

mutual

/-- The names that a statement assigns to in some part of it. -/
def targets : Stmt σ → List String
  | expr _ body => body.targets
  | block _ body => targetsOfAll body
  | ifThen _ condition yes => condition.targets ++ yes.targets
  | ifElse _ condition yes no => condition.targets ++ yes.targets ++ no.targets
  | loop _ condition body => condition.targets ++ body.targets
  | empty _ => []

/-- The names that the statements of a list assign to. -/
def targetsOfAll : List (Stmt σ) → List String
  | [] => []
  | t :: rest => t.targets ++ targetsOfAll rest

end

end Stmt

/-- The names that a unit assigns to in some part of it. -/
def Tree.targets : Tree σ → List String
  | .expression body => body.targets
  | .script body => Stmt.targetsOfAll body

def Code.targets : Code → List String
  | .expression e => e.targets
  | .expressions es => Expr.targetsOfAll es
  | .statement t => t.targets
  | .statements body => Stmt.targetsOfAll body
  | .rounds condition body _ => condition.targets ++ body.targets

theorem Code.targets_ofTree (t : Tree Span) : (Code.ofTree t).targets = t.targets := by
  cases t <;> rfl

theorem Expr.mem_targetsOfAll {name : String} {es : List (Expr σ)} :
    name ∈ targetsOfAll es ↔ ∃ e ∈ es, name ∈ e.targets := by
  induction es with
  | nil => simp [targetsOfAll]
  | cons e rest ih => simp [targetsOfAll, ih]

theorem Expr.targets_of_mem_children {e child : Expr σ} (h : child ∈ e.children) :
    child.targets ⊆ e.targets := by
  intro name listed
  have among : name ∈ targetsOfAll e.children := mem_targetsOfAll.2 ⟨child, h, listed⟩
  cases e <;> simp_all [children, targetsOfAll, targets]

namespace Setting

variable {setting : Setting} {a b : Activation}

/-- The evaluations that an evaluation starts are of parts of its code. -/
theorem Enters.targets (h : setting.Enters a b) : b.code.targets ⊆ a.code.targets := by
  intro name listed
  cases h with
  | @operands e s =>
    obtain ⟨child, among, here⟩ := Expr.mem_targetsOfAll.1 listed
    exact Expr.targets_of_mem_children (Expr.operands_subset s.context e among) here
  | selected _ selected =>
    exact Expr.targets_of_mem_children (Expr.selected_mem_children selected) listed
  | elseBody =>
    simp only [Code.targets] at listed
    split at listed <;> simp [Code.targets, Stmt.targets, listed]
  | _ => simp_all [Code.targets, Expr.targetsOfAll, Stmt.targets, Stmt.targetsOfAll]

theorem Visits.targets (h : setting.Visits a b) : b.code.targets ⊆ a.code.targets := by
  induction h with
  | refl => exact List.Subset.refl _
  | tail _ enters ih => exact List.Subset.trans enters.targets ih

/-- What is bound in an evaluation is a target of its code. -/
theorem Binds.mem_targets {s : State} {name : String} {v : Value} (h : setting.Binds a s name v) :
    name ∈ a.code.targets := by
  obtain ⟨span, target, value, start, visits, rfl, -⟩ := h
  exact visits.targets (List.mem_cons_self ..)

end Setting

/-- The values that a name may get are the only ones that it gets. -/
theorem enduring_written (name : String) (written : Value → Prop) :
    Enduring fun s s' => s'.context.get? name = s.context.get? name ∨
      ∃ v, written v ∧ s'.context.get? name = some v where
  world _ _ := .inl rfl
  trans h h' := by
    rcases h' with same | new
    · rwa [same]
    · exact .inr new

/-- Where an evaluation ends, a name has the binding that it had or a value that was bound to it. -/
theorem Setting.tree_writes (setting : Setting) (t : Tree Span) (s : State) (name : String) :
    (setting.tree t s).2.context.get? name = s.context.get? name ∨
      ∃ v, (∃ m, setting.Binds ⟨.ofTree t, s⟩ m name v) ∧
        (setting.tree t s).2.context.get? name = some v := by
  refine tree_endures (enduring_written name _) t s fun m other v binds => ?_
  have written := m.context.get?_insert other name v
  by_cases here : name = other
  · subst here
    exact .inr ⟨v, ⟨m, binds⟩, written.trans (if_pos rfl)⟩
  · exact .inl (written.trans (if_neg here))

/-! ### Accesses -/

namespace Eval

variable {α β γ : Type}

theorem context_bind_congr (m : Eval α) {f : α → Eval β} {g : α → Eval γ} {s : State}
    (h : ∀ a s', (f a s').2.context = (g a s').2.context) :
    ((m >>= f) s).2.context = ((m >>= g) s).2.context := by
  simp only [bind]
  rcases m s with ⟨value | error | exhausted, s'⟩
  · exact h value s'
  · rfl
  · rfl

theorem context_bind (m : Eval α) {f : α → Eval β} {s : State}
    (h : ∀ a s', (f a s').2.context = s'.context) :
    ((m >>= f) s).2.context = (m s).2.context := by
  simp only [bind]
  rcases m s with ⟨value | error | exhausted, s'⟩
  · exact h value s'
  · rfl
  · rfl

end Eval

namespace Setting

open Eval

variable (setting : Setting)

theorem context_write (span : Span) (target : Value) (name : String) (v : Value) (s : State) :
    (setting.write span target name v s).2.context = s.context :=
  context_bind (attemptOn span _) fun _ _ => rfl

theorem context_expressions_cons (e : Expr Span) (rest : List (Expr Span)) (s : State) :
    (setting.expressions (e :: rest) s).2.context =
      ((setting.expression e >>= fun _ => setting.expressions rest) s).2.context :=
  context_bind_congr (setting.expression e) fun _ _ => context_bind _ fun _ _ => rfl

theorem context_expressions_single (e : Expr Span) (s : State) :
    (setting.expressions [e] s).2.context = (setting.expression e s).2.context :=
  context_bind (setting.expression e) fun _ _ => rfl

/-- The access itself leaves the variables as its operands leave them. -/
theorem context_access {e : Expr Span} (access : e.isAccess = true) (s : State) :
    (setting.expression e s).2.context =
      (setting.expressions (e.operands s.context) s).2.context := by
  cases e with
  | get span target member =>
    rw [Expr.operands_get]
    cases found : s.context.dotted? (.get span target member) with
    | some value =>
      rw [expression_get_bound found]
      rfl
    | none =>
      rw [expression_get_unbound found]
      change _ = (setting.expressions [target] s).2.context
      rw [context_expressions_single]
      exact context_bind (setting.expression target) fun _ _ => rfl
  | index span target key =>
    change _ = (setting.expressions [target, key] s).2.context
    rw [context_expressions_cons]
    refine context_bind_congr (setting.expression target) fun object m => ?_
    rw [context_expressions_single]
    exact context_bind (setting.expression key) fun _ _ => rfl
  | assignMember span target member value =>
    change _ = (setting.expressions [target, value] s).2.context
    rw [context_expressions_cons]
    refine context_bind_congr (setting.expression target) fun object m => ?_
    rw [context_expressions_single]
    exact context_bind (setting.expression value) fun v m' => setting.context_write _ _ _ _ m'
  | assignIndex span target key value =>
    change _ = (setting.expressions [target, key, value] s).2.context
    rw [context_expressions_cons]
    refine context_bind_congr (setting.expression target) fun object m => ?_
    rw [context_expressions_cons]
    refine context_bind_congr (setting.expression key) fun name m' => ?_
    rw [context_expressions_single]
    exact context_bind (setting.expression value) fun v m'' => setting.context_write _ _ _ _ m''
  | call span target method arguments =>
    change _ = (setting.expressions (target :: arguments) s).2.context
    rw [context_expressions_cons]
    refine context_bind_congr (setting.expression target) fun object m => ?_
    exact context_bind (setting.expressions arguments) fun _ _ => rfl
  | builtin span function argument =>
    change _ = (setting.expressions [argument] s).2.context
    rw [context_expressions_single]
    exact context_bind (setting.expression argument) fun _ _ => rfl
  | _ => cases access

end Setting

/-- What an evaluation does to the variables: it binds them by assignments and in no other way. -/
structure WriteFootprint (engine : Engine) (unit : CompiledUnit) (s : State) : Prop where
  /-- A name that no assignment in the unit has as its target keeps its binding or has none. -/
  untargeted : ∀ name, name ∉ unit.tree.targets →
    (engine.evaluate unit s).2.context.get? name = s.context.get? name
  /-- No bound name gets unbound. -/
  bound : ∀ name, s.context.contains name = true →
    (engine.evaluate unit s).2.context.contains name = true
  /-- A name keeps its binding when the right-hand side of no reached assignment to it gives a
  value. -/
  failing : ∀ name,
    (∀ span target value m,
      engine.setting.Visits ⟨.ofTree unit.tree, s⟩ ⟨.expression (.assign span target value), m⟩ →
        target.text = name → ∀ v, (engine.setting.expression value m).1 ≠ .value v) →
    (engine.evaluate unit s).2.context.get? name = s.context.get? name
  /-- An access anywhere in the unit leaves the variables as its operands leave them. -/
  accesses : ∀ e m,
    engine.setting.Visits ⟨.ofTree unit.tree, s⟩ ⟨.expression e, m⟩ → e.isAccess = true →
      (engine.setting.expression e m).2.context =
        (engine.setting.expressions (e.operands m.context) m).2.context

/-- Whatever an evaluation ends with, all that it has written to the variables are the values of
assignments that it has reached. -/
theorem Engine.evaluate_writes (engine : Engine) (unit : CompiledUnit) (s : State) :
    WriteFootprint engine unit s := by
  have writes := engine.setting.tree_writes unit.tree s
  refine ⟨?_, ?_, ?_, ?_⟩
  · intro name absent
    rcases writes name with same | ⟨v, ⟨m, binds⟩, -⟩
    · exact same
    · exact absurd (Code.targets_ofTree unit.tree ▸ binds.mem_targets) absent
  · intro name bound
    rcases writes name with same | ⟨v, -, new⟩
    · exact (congrArg Option.isSome same).trans bound
    · exact congrArg Option.isSome new
  · intro name fails
    rcases writes name with same | ⟨v, ⟨m, span, target, value, start, visits, named, ran⟩, -⟩
    · exact same
    · exact absurd (congrArg Prod.fst ran) (fails span target value start visits named v)
  · intro e m _ access
    exact engine.setting.context_access access m

/-- `x = 1 / 0`, where `x` is seven before, and seven still when the division has failed. -/
theorem Engine.evaluate_writes_quotient :
    let quotient : Expr Span := .binary .nowhere .divide (.literal .nowhere (.integer 1))
      (.literal .nowhere (.integer 0))
    let unit : CompiledUnit :=
      ⟨"x = 1 / 0".toList, .expression (.assign .nowhere ⟨"x", .nowhere⟩ quotient)⟩
    let s : State := ⟨Table.empty.insert "x" (.integer 7), .empty, .empty⟩
    ((ofTypes {} [] 1).evaluate unit s).2.context.get? "x" = some (.integer 7) := by
  intro quotient unit s
  refine ((ofTypes {} [] 1).evaluate_writes unit s).failing "x" ?_
  intro span target value m visits named v gives
  rcases Relation.ReflTransGen.cases_head visits with same | ⟨b, enters, visits⟩
  · cases same
    cases gives
  · have listed : "x" ∈ b.code.targets := by
      refine Setting.Visits.targets visits ?_
      rw [← named]
      exact List.mem_cons_self ..
    cases enters with
    | operands => cases listed
    | selected _ selected => cases selected

end ExprScript
