import ExprScript.Engine
import ExprScript.Proofs.Eval.Follows

/-!
# Strict and lenient evaluation

Being strict adds two errors, for unbound variables and for null operands, and takes nothing else
away: an evaluation that raises neither is the same under both settings.
-/

namespace ExprScript

/-- The errors that only strict evaluation raises. -/
def EvalCause.isStrictOnly : EvalCause → Bool
  | undefinedVariable _ => true
  | type .nullOperand => true
  | _ => false

/-- A strict result is the lenient one unless an operand is null. -/
def Refines {α : Type} (strict lenient : Except EvalCause α) : Prop :=
  strict = .error (.type .nullOperand) ∨ strict = lenient

namespace Refines

variable {α β : Type} {x y : Except EvalCause α}

theorem refl (x : Except EvalCause α) : Refines x x := .inr rfl

theorem bind (h : Refines x y) (f : α → Except EvalCause β) : Refines (x >>= f) (y >>= f) := by
  rcases h with rfl | rfl
  · exact .inl rfl
  · exact .refl _

end Refines

theorem numericOperands_refines (op : BinaryOp) (lhs rhs : Value) :
    Refines (numericOperands true op lhs rhs) (numericOperands false op lhs rhs) := by
  cases lhs with
  | null => exact .inl rfl
  | _ => cases rhs <;> first
    | exact .inl rfl
    | exact .refl _

theorem numericResult_refines (op : BinaryOp) (f : Number.Operation) (lhs rhs : Value) :
    Refines (numericResult true op f lhs rhs) (numericResult false op f lhs rhs) :=
  (numericOperands_refines op lhs rhs).bind _

theorem divideValues_refines (op : BinaryOp) (f : Number.Operation) (fault : ArithmeticFault)
    (lhs rhs : Value) :
    Refines (divideValues true op f fault lhs rhs) (divideValues false op f fault lhs rhs) :=
  (numericOperands_refines op lhs rhs).bind _

/-- Texts are concatenated without a look at what is strict. -/
theorem addValues_refines (lhs rhs : Value) :
    Refines (addValues true lhs rhs) (addValues false lhs rhs) := by
  unfold addValues
  split
  · exact .refl _
  · exact numericResult_refines .add Number.addition lhs rhs

theorem compareValues_refines (op : BinaryOp) (lhs rhs : Value) :
    Refines (compareValues true op lhs rhs) (compareValues false op lhs rhs) := by
  unfold compareValues
  split
  · exact .refl _
  · exact .refl _
  · exact .refl _
  · exact (numericOperands_refines op lhs rhs).bind _

theorem relate_refines (op : BinaryOp) (holds : Ordering → Bool) (lhs rhs : Value) :
    Refines (relate true op holds lhs rhs) (relate false op holds lhs rhs) :=
  (compareValues_refines op lhs rhs).bind _

theorem BinaryOp.apply_refines (op : BinaryOp) (lhs rhs : Value) :
    Refines (op.apply true lhs rhs) (op.apply false lhs rhs) := by
  cases op with
  | add => exact addValues_refines lhs rhs
  | subtract => exact numericResult_refines .subtract Number.subtraction lhs rhs
  | multiply => exact numericResult_refines .multiply Number.multiplication lhs rhs
  | divide => exact divideValues_refines .divide Number.division .divisionByZero lhs rhs
  | modulo => exact divideValues_refines .modulo Number.remainder .moduloByZero lhs rhs
  | greater | greaterEq | less | lessEq => exact relate_refines _ _ lhs rhs
  | equal | notEqual | matching | notMatching | bitAnd | bitOr | bitXor => exact .refl _

theorem UnaryOp.apply_refines (op : UnaryOp) (operand : Value) :
    Refines (op.apply true operand) (op.apply false operand) := by
  cases op with
  | negate =>
    cases operand with
    | null => exact .inl rfl
    | _ => exact .refl _
  | logicalNot | bitNot => exact .refl _

/-- Runs from one state that may differ once the first has raised an error of strictness. -/
def Comparison.strictness : Comparison where
  excused cause := cause.isStrictOnly = true
  related := Eq
  context_eq same := congrArg State.context same
  insert _ _ same := by rw [same]

/-- The setting with or without strictness. -/
def Setting.withStrict (setting : Setting) (strict : Bool) : Setting := { setting with strict }

theorem Refines.follows {α : Type} {span : Span} {x y : Except EvalCause α} (h : Refines x y) :
    Eval.Follows .strictness (Eval.attempt span x) (Eval.attempt span y) := by
  refine .attempt ?_
  rcases h with failed | same
  · exact .inl ⟨_, failed, rfl⟩
  · exact .inr same

theorem Setting.strict_follows (setting : Setting) :
    (setting.withStrict true).Follows .strictness (setting.withStrict false) where
  rounds := rfl
  variableValue span context name := by
    refine .attempt ?_
    unfold variableValue
    split
    · exact .inr rfl
    · exact .inl ⟨_, rfl, rfl⟩
  binary _ op lhs rhs := (op.apply_refines lhs rhs).follows
  unary _ op operand := (op.apply_refines operand).follows
  useMember _ _ _ _ _ := by
    rintro s _ rfl
    exact .inr ⟨rfl, rfl⟩
  builtin _ _ _ := by
    rintro s _ rfl
    exact .inr ⟨rfl, rfl⟩

namespace Engine

/-- The engine with or without strictness. -/
def withStrict (engine : Engine) (strict : Bool) : Engine :=
  { engine with options := { engine.options with strict } }

/-- An evaluation that is strict and raises no error of strictness is the lenient evaluation: it
ends alike and leaves the same variables and the same host objects. -/
theorem strict_refines_lenient (engine : Engine) (unit : CompiledUnit) (s : State) :
    (∀ v, ((engine.withStrict true).evaluate unit s).1 = .value v →
      (engine.withStrict false).evaluate unit s = (engine.withStrict true).evaluate unit s) ∧
    (∀ e, ((engine.withStrict true).evaluate unit s).1 = .error e →
      e.cause.isStrictOnly = false →
      (engine.withStrict false).evaluate unit s = (engine.withStrict true).evaluate unit s) ∧
    (((engine.withStrict true).evaluate unit s).1 = .exhausted →
      (engine.withStrict false).evaluate unit s = (engine.withStrict true).evaluate unit s) := by
  have follows := (engine.setting.strict_follows.tree unit.tree) s s rfl
  change (∃ e, ((engine.withStrict true).evaluate unit s).1 = .error e ∧ _) ∨
    ((engine.withStrict true).evaluate unit s).1 = ((engine.withStrict false).evaluate unit s).1 ∧
      ((engine.withStrict true).evaluate unit s).2 = ((engine.withStrict false).evaluate unit s).2
    at follows
  rcases follows with ⟨e, failed, excused⟩ | ⟨ends, states⟩
  · refine ⟨fun v ended => ?_, fun e' ended other => ?_, fun ended => ?_⟩
    · simp [failed] at ended
    · obtain rfl : e = e' := by simpa [failed] using ended
      simp [Comparison.strictness, other] at excused
    · simp [failed] at ended
  · have same := (Prod.ext ends states).symm
    exact ⟨fun _ _ => same, fun _ _ _ => same, fun _ => same⟩

end Engine

end ExprScript
