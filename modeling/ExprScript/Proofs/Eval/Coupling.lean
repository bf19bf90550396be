import ExprScript.Eval.Statement
import ExprScript.Proofs.Host.Uses

/-!
# Coupled evaluations

Two evaluations of the same code start in related states and are compared step by step. Both end
alike in related states, unless the first ends with an error that is excused. Which states are
related, which values may turn up in them and what is excused is left open.
-/

namespace ExprScript

/-- By what two evaluations are compared. Related states bind the same variables, to admitted
values; whatever is no object is admitted. -/
structure Coupling where
  excused : EvalCause → Prop
  related : State → State → Prop
  admits : Value → Prop
  plain {v : Value} : v.asObject? = none → admits v
  context_eq {s₁ s₂ : State} : related s₁ s₂ → s₁.context = s₂.context
  bound {s₁ s₂ : State} {name : String} {v : Value} :
    related s₁ s₂ → s₁.context.get? name = some v → admits v
  insert {s₁ s₂ : State} (name : String) {v : Value} :
    admits v → related s₁ s₂ →
      related { s₁ with context := s₁.context.insert name v }
        { s₂ with context := s₂.context.insert name v }

/-- All values of the context are admitted. -/
def Coupling.AdmitsAll (c : Coupling) (context : Context) : Prop :=
  ∀ name v, context.get? name = some v → c.admits v

variable {c : Coupling} {α β : Type}

namespace Eval

/-- The second evaluation does what the first does and both give a value as demanded, but for
excused errors of the first. -/
def Coupled (c : Coupling) (post : α → Prop) (m₁ m₂ : Eval α) : Prop :=
  ∀ s₁ s₂, c.related s₁ s₂ →
    (∃ e, (m₁ s₁).1 = .error e ∧ c.excused e.cause) ∨
      (m₁ s₁).1 = (m₂ s₂).1 ∧ (∀ a, (m₁ s₁).1 = .value a → post a) ∧
        c.related (m₁ s₁).2 (m₂ s₂).2

namespace Coupled

variable {m₁ m₂ : Eval α} {f₁ f₂ : α → Eval β} {post : α → Prop} {post' : β → Prop}

theorem pure {a : α} (holds : post a) : Coupled c post (Pure.pure a) (Pure.pure a) := by
  intro s₁ s₂ related
  refine .inr ⟨rfl, ?_, related⟩
  rintro _ ⟨⟩
  exact holds

theorem exhaust : Coupled c post (exhaust : Eval α) exhaust := by
  intro s₁ s₂ related
  refine .inr ⟨rfl, ?_, related⟩
  rintro _ ⟨⟩

theorem context : Coupled c c.AdmitsAll context context := by
  intro s₁ s₂ related
  refine .inr ⟨congrArg Outcome.value (c.context_eq related), ?_, related⟩
  rintro _ ⟨⟩ name v
  exact c.bound related

theorem bindVariable (name : String) {v : Value} (admitted : c.admits v) :
    Coupled c (fun _ => True) (bindVariable name v) (bindVariable name v) :=
  fun _ _ related => .inr ⟨rfl, fun _ _ => trivial, c.insert name admitted related⟩

/-- An excused error is not lost by what comes after it. -/
theorem bind (first : Coupled c post m₁ m₂)
    (next : ∀ a, post a → Coupled c post' (f₁ a) (f₂ a)) :
    Coupled c post' (m₁ >>= f₁) (m₂ >>= f₂) := by
  intro s₁ s₂ related
  have step := first s₁ s₂ related
  simp only [Bind.bind]
  generalize m₁ s₁ = r₁ at step ⊢
  generalize m₂ s₂ = r₂ at step ⊢
  obtain ⟨o₁, t₁⟩ := r₁
  obtain ⟨o₂, t₂⟩ := r₂
  rcases step with ⟨e, failed, excused⟩ | ⟨same, holds, related⟩
  · cases failed
    exact .inl ⟨e, rfl, excused⟩
  · cases same
    cases o₁ with
    | value a => exact next a (holds a rfl) t₁ t₂ related
    | error e => exact .inr ⟨rfl, nofun, related⟩
    | exhausted => exact .inr ⟨rfl, nofun, related⟩

/-- Steps that change nothing are compared by their results. -/
theorem attempt {span : Span} {x y : Except EvalCause α} (same : x = y) (holds : Ensures post x) :
    Coupled c post (attempt span x) (attempt span y) := by
  subst same
  intro s₁ s₂ related
  refine .inr ⟨rfl, ?_, related⟩
  cases x with
  | ok a =>
    rintro _ ⟨⟩
    exact holds a rfl
  | error e => rintro _ ⟨⟩

theorem repeatWhile {test₁ test₂ body₁ body₂ : Eval Value}
    (test : Coupled c c.admits test₁ test₂) (body : Coupled c c.admits body₁ body₂) (rounds : Nat)
    {last : Value} (admitted : c.admits last) :
    Coupled c c.admits (repeatWhile test₁ body₁ rounds last)
      (repeatWhile test₂ body₂ rounds last) := by
  induction rounds generalizing last with
  | zero => exact exhaust
  | succ rounds ih =>
    refine test.bind fun value _ => ?_
    split
    · exact body.bind fun value admitted => ih admitted
    · exact pure admitted

end Coupled

end Eval

open Eval

/-- Every single step of two settings is coupled, when the values that it uses are admitted. -/
structure Setting.Coupled (c : Coupling) (a b : Setting) : Prop where
  rounds : a.rounds = b.rounds
  variableValue : ∀ span context name, c.AdmitsAll context →
    Eval.Coupled c c.admits (attempt span (a.variableValue context name))
      (attempt span (b.variableValue context name))
  binary : ∀ span (op : BinaryOp) lhs rhs,
    Eval.Coupled c c.admits (attempt span (op.apply a.strict lhs rhs))
      (attempt span (op.apply b.strict lhs rhs))
  unary : ∀ span (op : UnaryOp) operand,
    Eval.Coupled c c.admits (attempt span (op.apply a.strict operand))
      (attempt span (op.apply b.strict operand))
  useMember : ∀ span target name (use : Use), c.admits target → (∀ v ∈ use.arguments, c.admits v) →
    Eval.Coupled c c.admits
      (attemptOn span (a.resolve.useMember target name use.access use.arguments))
      (attemptOn span (b.resolve.useMember target name use.access use.arguments))
  builtin : ∀ span function argument, c.admits argument →
    Eval.Coupled c c.admits (attemptOn span (a.resolve.applyBuiltin function argument))
      (attemptOn span (b.resolve.applyBuiltin function argument))

theorem Coupling.AdmitsAll.dotted {context : Context} (h : c.AdmitsAll context) {e : Expr Span}
    {v : Value} (found : context.dotted? e = some v) : c.admits v := by
  unfold Context.dotted? at found
  split at found
  · split at found
    · cases found
    · exact h _ v found
  · cases found

/-! ### Operators give no objects -/

theorem Number.Operation.applyInts_plain (f : Number.Operation) (a b : Int64) :
    (f.applyInts a b).asObject? = none := by
  unfold applyInts
  split <;> rfl

theorem Number.Operation.apply_plain (f : Number.Operation) (a b : Number) :
    (f.apply a b).asObject? = none := by
  unfold apply
  split
  · exact f.applyInts_plain _ _
  · rfl

theorem numericResult_plain (strict : Bool) (op : BinaryOp) (f : Number.Operation)
    (lhs rhs : Value) :
    Ensures (fun v => v.asObject? = none) (numericResult strict op f lhs rhs) :=
  .bind fun operands _ => .ok (f.apply_plain operands.1 operands.2)

theorem addValues_plain (strict : Bool) (lhs rhs : Value) :
    Ensures (fun v => v.asObject? = none) (addValues strict lhs rhs) := by
  unfold addValues
  split
  · split
    · exact .ok (Number.addition.apply_plain _ _)
    · exact .ok rfl
  · exact numericResult_plain strict .add Number.addition lhs rhs

theorem divideValues_plain (strict : Bool) (op : BinaryOp) (f : Number.Operation)
    (fault : ArithmeticFault) (lhs rhs : Value) :
    Ensures (fun v => v.asObject? = none) (divideValues strict op f fault lhs rhs) := by
  refine .bind fun operands _ => ?_
  split
  · split
    · exact .error _
    · split
      · exact .ok rfl
      · exact .ok (f.applyInts_plain _ _)
  · exact .ok (f.apply_plain _ _)

theorem BinaryOp.apply_plain (op : BinaryOp) (strict : Bool) (lhs rhs : Value) :
    Ensures (fun v => v.asObject? = none) (op.apply strict lhs rhs) := by
  have bits (f : Int64 → Int64 → Int64) :
      Ensures (fun v => v.asObject? = none) (bitwise op f lhs rhs) := by
    unfold bitwise
    split
    · exact .ok rfl
    · exact .error _
  cases op with
  | add => exact addValues_plain strict lhs rhs
  | subtract | multiply => exact numericResult_plain _ _ _ lhs rhs
  | divide | modulo => exact divideValues_plain _ _ _ _ lhs rhs
  | equal | notEqual => exact .ok rfl
  | greater | greaterEq | less | lessEq => exact .bind fun _ _ => .ok rfl
  | matching | notMatching => exact .map fun _ _ => rfl
  | bitAnd | bitOr | bitXor => exact bits _

theorem UnaryOp.apply_plain (op : UnaryOp) (strict : Bool) (operand : Value) :
    Ensures (fun v => v.asObject? = none) (op.apply strict operand) := by
  cases op with
  | logicalNot => exact .ok rfl
  | bitNot =>
    cases operand with
    | integer n => exact .ok rfl
    | _ => exact .error _
  | negate =>
    refine .bind fun number _ => ?_
    split
    · rename_i n
      refine .ok ?_
      unfold Number.negative
      split
      · split <;> rfl
      · rfl
    · exact .error _

namespace Setting.Coupled

variable {a b : Setting}

theorem read (h : a.Coupled c b) (span : Span) {target : Value} (name : String)
    (admitted : c.admits target) :
    Eval.Coupled c c.admits (a.read span target name) (b.read span target name) :=
  h.useMember span target name .get admitted (by simp [Use.arguments])

theorem write (h : a.Coupled c b) (span : Span) {target v : Value} (name : String)
    (admitted : c.admits target) (written : c.admits v) :
    Eval.Coupled c c.admits (a.write span target name v) (b.write span target name v) :=
  (h.useMember span target name (.set v) admitted (by simpa [Use.arguments])).bind
    fun _ _ => .pure written

mutual

theorem expression (h : a.Coupled c b) (e : Expr Span) :
    Eval.Coupled c c.admits (a.expression e) (b.expression e) := by
  cases e with
  | literal span value => exact .pure (c.plain (by cases value <;> rfl))
  | var name => exact .bind .context fun context all => h.variableValue _ _ _ all
  | binary span op lhs rhs =>
    exact (h.expression lhs).bind fun left _ => (h.expression rhs).bind fun right _ =>
      h.binary span op left right
  | unary span op operand =>
    exact (h.expression operand).bind fun value _ => h.unary span op value
  | logical span op lhs rhs =>
    refine (h.expression lhs).bind fun left _ => ?_
    have truth (b : Bool) : c.admits (.boolean b) := c.plain rfl
    have other := (h.expression rhs).bind fun right _ => .pure (truth right.isTruthy)
    -- Both evaluations have the same left side here, so both or neither look at the right side.
    cases op <;> cases left.isTruthy
    · exact .pure (truth false)
    · exact other
    · exact other
    · exact .pure (truth true)
  | ternary span condition yes no =>
    refine (h.expression condition).bind fun test _ => ?_
    split
    · exact h.expression yes
    · exact h.expression no
  | elvis span lhs rhs =>
    refine (h.expression lhs).bind fun value admitted => ?_
    split
    · exact .pure admitted
    · exact h.expression rhs
  | assign span name value =>
    exact (h.expression value).bind fun value admitted =>
      .bind (.bindVariable name.text admitted) fun _ _ => .pure admitted
  | get span target member =>
    refine .bind .context fun context all => ?_
    split
    · rename_i found
      exact .pure (all.dotted found)
    · exact (h.expression target).bind fun object admitted => h.read _ _ admitted
  | index span target key =>
    exact (h.expression target).bind fun object admitted => (h.expression key).bind fun name _ =>
      h.read _ _ admitted
  | assignMember span target member value =>
    exact (h.expression target).bind fun object admitted =>
      (h.expression value).bind fun value written => h.write _ _ admitted written
  | assignIndex span target key value =>
    exact (h.expression target).bind fun object admitted => (h.expression key).bind fun name _ =>
      (h.expression value).bind fun value written => h.write _ _ admitted written
  | call span target method arguments =>
    exact (h.expression target).bind fun object admitted =>
      (h.expressions arguments).bind fun values passed =>
        h.useMember _ object method.text (.call values) admitted passed
  | builtin span function argument =>
    exact (h.expression argument).bind fun value admitted => h.builtin span function value admitted

theorem expressions (h : a.Coupled c b) (es : List (Expr Span)) :
    Eval.Coupled c (fun values => ∀ v ∈ values, c.admits v) (a.expressions es)
      (b.expressions es) := by
  cases es with
  | nil => exact .pure (by simp)
  | cons e rest =>
    exact (h.expression e).bind fun value admitted => (h.expressions rest).bind fun values others =>
      .pure (List.forall_mem_cons.2 ⟨admitted, others⟩)

end

mutual

theorem statement (h : a.Coupled c b) (t : Stmt Span) :
    Eval.Coupled c c.admits (a.statement t) (b.statement t) := by
  cases t with
  | expr span body => exact h.expression body
  | block span body => exact h.statements body (c.plain rfl)
  | ifThen span condition yes =>
    refine (h.expression condition).bind fun test _ => ?_
    split
    · exact h.statement yes
    · exact .pure (c.plain rfl)
  | ifElse span condition yes no =>
    refine (h.expression condition).bind fun test _ => ?_
    split
    · exact h.statement yes
    · exact h.statement no
  | loop span condition body =>
    have null : c.admits .null := c.plain rfl
    have rounds := Coupled.repeatWhile (h.expression condition) (h.statement body) a.rounds null
    rw [Setting.statement, Setting.statement, ← h.rounds]
    exact rounds
  | empty span => exact .pure (c.plain rfl)

theorem statements (h : a.Coupled c b) (body : List (Stmt Span)) {last : Value}
    (admitted : c.admits last) :
    Eval.Coupled c c.admits (a.statements body last) (b.statements body last) := by
  cases body with
  | nil => exact .pure admitted
  | cons t rest =>
    rw [Setting.statements, Setting.statements]
    split
    · exact h.statements rest admitted
    · exact (h.statement t).bind fun value admitted => h.statements rest admitted

end

/-- Evaluations of a unit are coupled when all single steps are. -/
theorem tree (h : a.Coupled c b) (t : Tree Span) :
    Eval.Coupled c c.admits (a.tree t) (b.tree t) := by
  cases t with
  | expression body => exact h.expression body
  | script body => exact h.statements body (c.plain rfl)

end Setting.Coupled

end ExprScript
