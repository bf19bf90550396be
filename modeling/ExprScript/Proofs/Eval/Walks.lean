import ExprScript.Proofs.Eval.Visits

/-!
# What holds all along an evaluation

An evaluation is made of steps that follow each other. In its own step an expression fails at a known
place, acts on the world, or binds a variable, after its operands have given values. What holds of
all such steps and goes on from one to the next holds of the whole evaluation.
-/

namespace ExprScript

/-- The span that an error of the own step of an expression is placed at. -/
def Expr.blamed : Expr Span → Span
  | .call _ _ method _ => method.span
  | e => e.span

open Eval in
/-- The step that an expression is left with when its operands have given values. -/
inductive Expr.Step : Expr Span → List Value → Eval Value → Prop where
  | result {e vs} (result : Except EvalCause Value) : Step e vs (attempt e.blamed result)
  | use {e vs} (step : World → Except EvalCause Value × World) :
    Step e vs (attemptOn e.blamed step)
  | write {e vs} (step : World → Except EvalCause Value × World) (v : Value) :
    Step e vs (attemptOn e.blamed step >>= fun _ => return v)
  | bind {span name value v} :
    Step (.assign span name value) [v] (bindVariable name.text v >>= fun _ => return v)

namespace Setting

open Eval

variable {setting : Setting} {a b : Activation}

/-- What holds between a state and the end of all that an evaluation enters, by holding of each step
and of sequences. -/
structure Walk (setting : Setting) (a : Activation)
    (Q : {α : Type} → State → Outcome α × State → Prop) : Prop where
  value {α : Type} (x : α) (s : State) : Q s (.value x, s)
  exhausted {α : Type} (s : State) : Q s ((.exhausted, s) : Outcome α × State)
  bind {α β : Type} {m : Eval α} {f : α → Eval β} {s : State} : Q s (m s) →
    (∀ x s', m s = (.value x, s') → Q s' (f x s')) → Q s ((m >>= f) s)
  step {e : Expr Span} {s m : State} {vs : List Value} (own : Eval Value) :
    setting.Visits a ⟨.expression e, s⟩ → (∀ first, e.selected? first = none) →
    setting.expressions (e.operands s.context) s = (.value vs, m) → e.Step vs own →
    setting.expression e s = own m → Q m (own m)

variable {Q : {α : Type} → State → Outcome α × State → Prop}

theorem Walk.enter (walk : setting.Walk a Q) (enters : setting.Enters a b) : setting.Walk b Q :=
  { walk with step := fun own visits => walk.step own (.head enters visits) }

-- By induction on the tree. What a part enters is entered by the whole, so that `walk` is handed down
-- along the evaluations that are entered.

mutual

theorem walk_expression (e : Expr Span) (s : State) (walk : setting.Walk ⟨.expression e, s⟩ Q) :
    Q s (setting.expression e s) := by
  have operands := walk.enter .operands
  cases e with
  | literal span value => exact walk.value _ s
  | var name =>
    exact walk.step (attempt name.span (setting.variableValue s.context name.text)) .refl
      (fun _ => rfl) rfl (.result _) rfl
  | binary span op lhs rhs =>
    refine walk.bind (walk_expression lhs s (operands.enter .first)) fun left m ran => ?_
    have other := (operands.enter (.others ran)).enter .first
    refine walk.bind (walk_expression rhs m other) fun right m' ran' => ?_
    refine walk.step _ .refl (fun _ => rfl) (expressions_cons ran (expressions_single ran'))
      (.result _) ?_
    rw [expression, bind_of_value ran, bind_of_value ran']
  | unary span op operand =>
    refine walk.bind (walk_expression operand s (operands.enter .first)) fun value m ran => ?_
    refine walk.step _ .refl (fun _ => rfl) (expressions_single ran) (.result _) ?_
    rw [expression, bind_of_value ran]
  | logical span op lhs rhs =>
    refine walk.bind (walk_expression lhs s (operands.enter .first)) fun left m ran => ?_
    have other (selected : left.isTruthy = (op == .and)) :
        Q m ((setting.expression rhs >>= fun v => pure (Value.boolean v.isTruthy)) m) := by
      have selected := walk.enter (.selected (expressions_single ran) (if_pos selected))
      exact walk.bind (walk_expression rhs m selected) fun _ _ _ => walk.value _ _
    cases op <;> cases truth : left.isTruthy
    · exact walk.value _ m
    · exact other truth
    · exact other truth
    · exact walk.value _ m
  | ternary span condition yes no =>
    refine walk.bind (walk_expression condition s (operands.enter .first)) fun test m ran => ?_
    have branch := walk.enter (.selected (expressions_single ran) rfl)
    split
    · rename_i truth
      rw [if_pos truth] at branch
      exact walk_expression yes m branch
    · rename_i truth
      rw [if_neg truth] at branch
      exact walk_expression no m branch
  | elvis span lhs rhs =>
    refine walk.bind (walk_expression lhs s (operands.enter .first)) fun value m ran => ?_
    split
    · exact walk.value _ m
    · rename_i truth
      have other := walk.enter (.selected (expressions_single ran) (if_neg truth))
      exact walk_expression rhs m other
  | assign span name value =>
    refine walk.bind (walk_expression value s (operands.enter .first)) fun v m ran => ?_
    refine walk.step _ .refl (fun _ => rfl) (expressions_single ran) .bind ?_
    rw [expression, bind_of_value ran]
  | get span target member =>
    cases found : s.context.dotted? (.get span target member) with
    | some v =>
      rw [expression_get_bound found]
      exact walk.value v s
    | none =>
      have unbound : (Expr.get span target member).operands s.context = [target] := by
        rw [Expr.operands_get, found]
        rfl
      rw [unbound] at operands
      rw [expression_get_unbound found]
      refine walk.bind (walk_expression target s (operands.enter .first)) fun object m ran => ?_
      refine walk.step _ .refl (fun _ => rfl) (unbound ▸ expressions_single ran) (.use _) ?_
      rw [expression_get_unbound found, bind_of_value ran]
  | index span target key =>
    refine walk.bind (walk_expression target s (operands.enter .first)) fun object m ran => ?_
    have second := (operands.enter (.others ran)).enter .first
    refine walk.bind (walk_expression key m second) fun name m' ran' => ?_
    refine walk.step _ .refl (fun _ => rfl) (expressions_cons ran (expressions_single ran'))
      (.use _) ?_
    rw [expression, bind_of_value ran, bind_of_value ran']
  | assignMember span target member value =>
    refine walk.bind (walk_expression target s (operands.enter .first)) fun object m ran => ?_
    have second := (operands.enter (.others ran)).enter .first
    refine walk.bind (walk_expression value m second) fun v m' ran' => ?_
    refine walk.step _ .refl (fun _ => rfl) (expressions_cons ran (expressions_single ran'))
      (.write _ v) ?_
    rw [expression, bind_of_value ran, bind_of_value ran']
  | assignIndex span target key value =>
    refine walk.bind (walk_expression target s (operands.enter .first)) fun object m ran => ?_
    have others := operands.enter (.others ran)
    refine walk.bind (walk_expression key m (others.enter .first)) fun name m' ran' => ?_
    have third := (others.enter (.others ran')).enter .first
    refine walk.bind (walk_expression value m' third) fun v m'' ran'' => ?_
    have all := expressions_cons ran (expressions_cons ran' (expressions_single ran''))
    refine walk.step _ .refl (fun _ => rfl) all (.write _ v) ?_
    rw [expression, bind_of_value ran, bind_of_value ran', bind_of_value ran'']
  | call span target method arguments =>
    refine walk.bind (walk_expression target s (operands.enter .first)) fun object m ran => ?_
    have others := operands.enter (.others ran)
    refine walk.bind (walk_expressions arguments m others) fun values m' ran' => ?_
    refine walk.step _ .refl (fun _ => rfl) (expressions_cons ran ran') (.use _) ?_
    rw [expression, bind_of_value ran, bind_of_value ran']
  | builtin span function argument =>
    refine walk.bind (walk_expression argument s (operands.enter .first)) fun value m ran => ?_
    refine walk.step _ .refl (fun _ => rfl) (expressions_single ran) (.use _) ?_
    rw [expression, bind_of_value ran]

theorem walk_expressions (es : List (Expr Span)) (s : State)
    (walk : setting.Walk ⟨.expressions es, s⟩ Q) : Q s (setting.expressions es s) := by
  cases es with
  | nil => exact walk.value _ s
  | cons e rest =>
    refine walk.bind (walk_expression e s (walk.enter .first)) fun value m ran => ?_
    have others := walk_expressions rest m (walk.enter (.others ran))
    exact walk.bind others fun _ _ _ => walk.value _ _

end

theorem walk_rounds {test : Expr Span} {body : Stmt Span}
    (statement : ∀ s, setting.Walk ⟨.statement body, s⟩ Q → Q s (setting.statement body s))
    (left : Nat) (last : Value) (s : State) (walk : setting.Walk ⟨.rounds test body left, s⟩ Q) :
    Q s (repeatWhile (setting.expression test) (setting.statement body) left last s) := by
  induction left generalizing last s with
  | zero => exact walk.exhausted s
  | succ left ih =>
    refine walk.bind (walk_expression test s (walk.enter .roundTest)) fun value m ran => ?_
    split
    · rename_i truth
      refine walk.bind (statement m (walk.enter (.roundBody ran truth))) fun value' m' ran' => ?_
      exact ih value' m' (walk.enter (.nextRound ran truth ran'))
    · exact walk.value _ m

mutual

theorem walk_statement (t : Stmt Span) (s : State) (walk : setting.Walk ⟨.statement t, s⟩ Q) :
    Q s (setting.statement t s) := by
  cases t with
  | expr span body => exact walk_expression body s (walk.enter .expr)
  | block span body => exact walk_statements body .null s (walk.enter .block)
  | ifThen span test yes =>
    refine walk.bind (walk_expression test s (walk.enter .thenTest)) fun value m ran => ?_
    split
    · rename_i truth
      exact walk_statement yes m (walk.enter (.thenBody ran truth))
    · exact walk.value _ m
  | ifElse span test yes no =>
    refine walk.bind (walk_expression test s (walk.enter .elseTest)) fun value m ran => ?_
    have branch := walk.enter (.elseBody ran)
    split
    · rename_i truth
      rw [if_pos truth] at branch
      exact walk_statement yes m branch
    · rename_i truth
      rw [if_neg truth] at branch
      exact walk_statement no m branch
  | loop span test body => exact walk_rounds (walk_statement body) _ _ s (walk.enter .loop)
  | empty span => exact walk.value _ s

theorem walk_statements (body : List (Stmt Span)) (last : Value) (s : State)
    (walk : setting.Walk ⟨.statements body, s⟩ Q) : Q s (setting.statements body last s) := by
  cases body with
  | nil => exact walk.value _ s
  | cons t rest =>
    rw [Setting.statements]
    split
    · rename_i empty
      exact walk_statements rest last s (walk.enter (.skip empty))
    · rename_i empty
      have occupied : t.isEmpty = false := by simpa using empty
      refine walk.bind (walk_statement t s (walk.enter (.head occupied))) fun value m ran => ?_
      exact walk_statements rest value m (walk.enter (.tail occupied ran))

end

/-- What holds of all steps of an evaluation and goes on from one to the next holds of it. -/
theorem walk_tree (t : Tree Span) (s : State) (walk : setting.Walk ⟨.ofTree t, s⟩ Q) :
    Q s (setting.tree t s) := by
  cases t with
  | expression body => exact walk_expression body s walk
  | script body => exact walk_statements body .null s walk

end Setting

/-! ### Steps that endure -/

/-- What holds between the states before and after whatever only acts on the world, and between any
two states with such steps in between. -/
structure Enduring (R : State → State → Prop) : Prop where
  world (s : State) (world : World) : R s { s with world }
  trans {s s' s'' : State} : R s s' → R s' s'' → R s s''

/-- The state that an evaluation leaves is related to the one before it. -/
def Eval.Endures {α : Type} (R : State → State → Prop) (m : Eval α) (s : State) : Prop :=
  R s (m s).2

namespace Setting

open Eval

variable {setting : Setting} {R : State → State → Prop} {s : State}

/-- In an evaluation an assignment is reached whose right-hand side gives a value, in the state that
it leaves. -/
def Binds (setting : Setting) (a : Activation) (s : State) (name : String) (v : Value) : Prop :=
  ∃ span target value start, setting.Visits a ⟨.expression (.assign span target value), start⟩ ∧
    target.text = name ∧ setting.expression value start = (.value v, s)

/-- The bindings of an evaluation are all as `R` says. -/
def Binding (setting : Setting) (R : State → State → Prop) (a : Activation) : Prop :=
  ∀ s name v, setting.Binds a s name v → R s { s with context := s.context.insert name v }

theorem Binding.walk {a : Activation} (binding : setting.Binding R a) (h : Enduring R) :
    setting.Walk a fun s r => R s r.2 where
  value _ s := h.world s s.world
  exhausted s := h.world s s.world
  bind {_ _ m f s} first next := by
    simp only [Bind.bind]
    generalize ran : m s = r at first
    rcases r with ⟨value | error | exhausted, s'⟩
    · exact h.trans first (next value s' ran)
    · exact first
    · exact first
  step {e s m vs} own visits _ operands own_step _ := by
    cases own_step with
    | result result => exact h.world m m.world
    | use step => exact h.world m _
    | write step v =>
      simp only [Bind.bind, attemptOn]
      cases (step m.world).1 <;> exact h.world m (step m.world).2
    | @bind span name value v =>
      exact binding m name.text v ⟨span, name, value, s, visits, rfl, of_expressions_single operands⟩

/-- What endures the steps on the world and the bindings of an evaluation endures the evaluation. -/
theorem tree_endures (h : Enduring R) (t : Tree Span) (s : State)
    (binding : setting.Binding R ⟨.ofTree t, s⟩) : Endures R (setting.tree t) s :=
  walk_tree t s (binding.walk h)

end Setting

end ExprScript
