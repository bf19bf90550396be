import ExprScript.Eval.Arithmetic

/-!
# Operands

What the operators of arithmetic do with their operands before they compute: null is refused by
strict evaluation and by nothing else, and two numbers go on to the operation. An addition with a
string among its operands is the exception, since it looks at them as texts when they are not both
numbers, and null is an empty text.
-/

namespace ExprScript

variable {strict : Bool} {op : BinaryOp} {lhs rhs : Value}

/-- The operators that compute with numbers. -/
def BinaryOp.arithmetic : List BinaryOp := [.add, .subtract, .multiply, .divide, .modulo]

theorem Value.operand_of_ne_null {v : Value} (h : v ≠ .null) :
    v.operand strict = .ok v.number? := by
  cases v with
  | null => exact absurd rfl h
  | _ => rfl

/-! ### Operands that are numbers -/

theorem numericOperands_of_ne_null (h : lhs ≠ .null) (h' : rhs ≠ .null) :
    numericOperands strict op lhs rhs = match lhs.number?, rhs.number? with
      | some a, some b => .ok (a, b)
      | _, _ => illegalOperands op lhs rhs := by
  rw [numericOperands, Value.operand_of_ne_null h, Value.operand_of_ne_null h']
  rfl

section Numbers

variable {a b : Number} (left : lhs.operand strict = .ok (some a))
  (right : rhs.operand strict = .ok (some b))

include left right

theorem numericOperands_of_numbers : numericOperands strict op lhs rhs = .ok (a, b) := by
  rw [numericOperands, left, right]
  rfl

theorem numericResult_of_numbers (f : Number.Operation) :
    numericResult strict op f lhs rhs = .ok (f.apply a b) := by
  rw [numericResult, numericOperands_of_numbers left right]
  rfl

end Numbers

theorem divideValues_of_ints {a b : Int64} (left : lhs.operand strict = .ok (some (.int a)))
    (right : rhs.operand strict = .ok (some (.int b))) (f : Number.Operation)
    (fault : ArithmeticFault) :
    divideValues strict op f fault lhs rhs =
      if b = 0 then .error (.arithmetic fault)
      else if a = Int64.minValue ∧ b = -1 then
        .ok (.float (f.onFloats (Integer.toFloat a) (Integer.toFloat b)))
      else .ok (f.applyInts a b) := by
  rw [divideValues, numericOperands_of_numbers left right]
  rfl

/-! ### Operands that are null -/

section Null

variable (null : lhs = .null ∨ rhs = .null)

include null

theorem numericOperands_null :
    numericOperands true op lhs rhs = .error (.type .nullOperand) := by
  by_cases first : lhs = .null
  · rw [numericOperands, first]
    rfl
  · rw [numericOperands, Value.operand_of_ne_null first, null.resolve_left first]
    rfl

theorem numericResult_null (f : Number.Operation) :
    numericResult true op f lhs rhs = .error (.type .nullOperand) := by
  rw [numericResult, numericOperands_null null]
  rfl

theorem divideValues_null (f : Number.Operation) (fault : ArithmeticFault) :
    divideValues true op f fault lhs rhs = .error (.type .nullOperand) := by
  rw [divideValues, numericOperands_null null]
  rfl

/-- Null is no number beside a string, whatever the setting. -/
theorem addValues_null_string (text : lhs.kind = .string ∨ rhs.kind = .string) :
    addValues strict lhs rhs = .ok (.string (lhs.render ++ rhs.render)) := by
  rw [addValues, if_pos text]
  rcases null with rfl | rfl
  · rfl
  · cases lhs.number? <;> rfl

end Null

/-- Strict evaluation refuses null as an operand of arithmetic, except beside a string in an
addition, which is then a concatenation with nothing. -/
theorem strict_null_operand (op : BinaryOp) (arithmetic : op ∈ BinaryOp.arithmetic)
    (lhs rhs : Value) (null : lhs = .null ∨ rhs = .null) :
    (¬ (op = .add ∧ (lhs.kind = .string ∨ rhs.kind = .string)) →
      op.apply true lhs rhs = .error (.type .nullOperand)) ∧
    (op = .add ∧ (lhs.kind = .string ∨ rhs.kind = .string) →
      op.apply true lhs rhs = .ok (.string (lhs.render ++ rhs.render))) ∧
    UnaryOp.negate.apply true .null = .error (.type .nullOperand) := by
  refine ⟨fun numeric => ?_, ?_, rfl⟩
  · simp only [BinaryOp.arithmetic, List.mem_cons, List.not_mem_nil, or_false] at arithmetic
    rcases arithmetic with rfl | rfl | rfl | rfl | rfl
    · have noText : ¬ (lhs.kind = .string ∨ rhs.kind = .string) := fun text => numeric ⟨rfl, text⟩
      rw [BinaryOp.apply, addValues, if_neg noText]
      exact numericResult_null null _
    · exact numericResult_null null _
    · exact numericResult_null null _
    · exact divideValues_null null _ _
    · exact divideValues_null null _ _
  · rintro ⟨rfl, text⟩
    exact addValues_null_string null text

/-- Beside null a numeric string is a number to a remainder, and a text to an addition. -/
theorem strict_null_operand_digits :
    (BinaryOp.modulo ∈ BinaryOp.arithmetic ∧ (Value.string "7" = .null ∨ Value.null = .null) ∧
      BinaryOp.modulo.apply true (.string "7") .null = .error (.type .nullOperand)) ∧
    BinaryOp.add ∈ BinaryOp.arithmetic ∧ (Value.null = .null ∨ Value.string "7" = .null) ∧
      BinaryOp.add.apply true .null (.string "7") = .ok (.string "7") := by
  have remainder := strict_null_operand .modulo (by decide) (.string "7") .null (.inr rfl)
  have sum := strict_null_operand .add (by decide) .null (.string "7") (.inl rfl)
  exact ⟨⟨by decide, .inr rfl, remainder.1 (by decide)⟩,
    by decide, .inl rfl, sum.2.1 (by decide)⟩

/-- Not every null operand is refused: beside a string it is added as an empty text. -/
theorem strict_null_concatenated :
    BinaryOp.add.apply true .null (.string "x") = .ok (.string "x") ∧
      ¬ ∃ fault, BinaryOp.add.apply true .null (.string "x") = .error (.type fault) := by
  have sum : BinaryOp.add.apply true .null (.string "x") = .ok (.string "x") := rfl
  refine ⟨sum, ?_⟩
  rintro ⟨fault, refused⟩
  rw [sum] at refused
  cases refused

end ExprScript
