import ExprScript.Proofs.Eval.Coupling

/-!
# Evaluations that follow each other

Two evaluations start in related states. The second follows the first when both end alike in related
states, unless the first ends with an error that is excused. What is excused and which states are
related is left open.
-/

namespace ExprScript

/-- By what two evaluations are compared. Related states bind the same variables. -/
structure Comparison where
  excused : EvalCause → Prop
  related : State → State → Prop
  context_eq {s₁ s₂ : State} : related s₁ s₂ → s₁.context = s₂.context
  insert {s₁ s₂ : State} (name : String) (v : Value) :
    related s₁ s₂ →
      related { s₁ with context := s₁.context.insert name v }
        { s₂ with context := s₂.context.insert name v }

/-- The comparison as a coupling that admits all values. -/
def Comparison.coupling (c : Comparison) : Coupling where
  excused := c.excused
  related := c.related
  admits _ := True
  plain _ := trivial
  context_eq := c.context_eq
  bound _ _ := trivial
  insert name v _ := c.insert name v

variable {c : Comparison} {α : Type}

namespace Eval

/-- The second evaluation does what the first does, but for excused errors of the first. -/
def Follows (c : Comparison) (m₁ m₂ : Eval α) : Prop :=
  ∀ s₁ s₂, c.related s₁ s₂ →
    (∃ e, (m₁ s₁).1 = .error e ∧ c.excused e.cause) ∨
      (m₁ s₁).1 = (m₂ s₂).1 ∧ c.related (m₁ s₁).2 (m₂ s₂).2

theorem coupled_of_follows {m₁ m₂ : Eval α} (h : Follows c m₁ m₂) :
    Coupled c.coupling (fun _ => True) m₁ m₂ := by
  intro s₁ s₂ related
  rcases h s₁ s₂ related with excused | ⟨same, related⟩
  · exact .inl excused
  · exact .inr ⟨same, fun _ _ => trivial, related⟩

theorem follows_of_coupled {post : α → Prop} {m₁ m₂ : Eval α}
    (h : Coupled c.coupling post m₁ m₂) : Follows c m₁ m₂ := by
  intro s₁ s₂ related
  rcases h s₁ s₂ related with excused | ⟨same, -, related⟩
  · exact .inl excused
  · exact .inr ⟨same, related⟩

/-- Steps that change nothing are compared by their results. -/
theorem Follows.attempt {span : Span} {x y : Except EvalCause α}
    (h : (∃ cause, x = .error cause ∧ c.excused cause) ∨ x = y) :
    Follows c (attempt span x) (attempt span y) := by
  intro s₁ s₂ related
  rcases h with ⟨cause, rfl, excused⟩ | rfl
  · exact .inl ⟨⟨span, cause⟩, rfl, excused⟩
  · exact .inr ⟨rfl, related⟩

end Eval

open Eval

/-- Under the second setting every single step does what it does under the first, but for excused
errors. -/
structure Setting.Follows (c : Comparison) (a b : Setting) : Prop where
  rounds : a.rounds = b.rounds
  variableValue : ∀ span context name,
    Eval.Follows c (attempt span (a.variableValue context name))
      (attempt span (b.variableValue context name))
  binary : ∀ span (op : BinaryOp) lhs rhs,
    Eval.Follows c (attempt span (op.apply a.strict lhs rhs))
      (attempt span (op.apply b.strict lhs rhs))
  unary : ∀ span (op : UnaryOp) operand,
    Eval.Follows c (attempt span (op.apply a.strict operand))
      (attempt span (op.apply b.strict operand))
  useMember : ∀ span target name access arguments,
    Eval.Follows c (attemptOn span (a.resolve.useMember target name access arguments))
      (attemptOn span (b.resolve.useMember target name access arguments))
  builtin : ∀ span function argument,
    Eval.Follows c (attemptOn span (a.resolve.applyBuiltin function argument))
      (attemptOn span (b.resolve.applyBuiltin function argument))

namespace Setting.Follows

variable {a b : Setting}

theorem coupled (h : a.Follows c b) : a.Coupled c.coupling b where
  rounds := h.rounds
  variableValue span context name _ := coupled_of_follows (h.variableValue span context name)
  binary span op lhs rhs := coupled_of_follows (h.binary span op lhs rhs)
  unary span op operand := coupled_of_follows (h.unary span op operand)
  useMember span target name use _ _ :=
    coupled_of_follows (h.useMember span target name use.access use.arguments)
  builtin span function argument _ := coupled_of_follows (h.builtin span function argument)

/-- Units are evaluated alike when all single steps are. -/
theorem tree (h : a.Follows c b) (t : Tree Span) : Eval.Follows c (a.tree t) (b.tree t) :=
  follows_of_coupled (h.coupled.tree t)

end Setting.Follows

end ExprScript
