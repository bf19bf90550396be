import ExprScript.Double.Remainder
import ExprScript.Eval.Number
import ExprScript.Pattern.Matching
import ExprScript.Pattern.Syntax.Expression
import ExprScript.Text.Order

/-!
# Operators on values

Integer results are exact when they fit into a word, and doubles otherwise. Strings that denote
numbers take part as numbers, also in additions when both sides do; other additions with a string
concatenate.
-/

namespace ExprScript

namespace Number

/-- An operation on integers and the same on doubles. -/
structure Operation where
  onInts : Int → Int → Int
  onFloats : Float → Float → Float

def addition : Operation := ⟨(· + ·), (· + ·)⟩

def subtraction : Operation := ⟨(· - ·), (· - ·)⟩

def multiplication : Operation := ⟨(· * ·), (· * ·)⟩

/-- Division, cut off toward zero for integers. -/
def division : Operation := ⟨Int.tdiv, (· / ·)⟩

/-- The remainder of `division`. -/
def remainder : Operation := ⟨Int.tmod, Double.remainder⟩

/-- The result on two integers: an integer when it fits, else the result on their doubles. -/
def Operation.applyInts (f : Operation) (a b : Int64) : Value :=
  match Integer.fit? (f.onInts a.toInt b.toInt) with
  | some n => .integer n
  | none => .float (f.onFloats (Integer.toFloat a) (Integer.toFloat b))

def Operation.apply (f : Operation) : Number → Number → Value
  | int a, int b => f.applyInts a b
  | a, b => .float (f.onFloats a.toFloat b.toFloat)

end Number

/-- The fault of operands to which an operator does not apply. -/
def illegalOperands {α : Type} (op : BinaryOp) (lhs rhs : Value) : Except EvalCause α :=
  .error (.type (.binaryOperands op lhs.typeName rhs.typeName))

/-- Both operands as numbers. -/
def numericOperands (strict : Bool) (op : BinaryOp) (lhs rhs : Value) :
    Except EvalCause (Number × Number) := do
  match ← lhs.operand strict, ← rhs.operand strict with
  | some a, some b => .ok (a, b)
  | _, _ => illegalOperands op lhs rhs

/-- The result of an operation on two numeric operands. -/
def numericResult (strict : Bool) (op : BinaryOp) (f : Number.Operation) (lhs rhs : Value) :
    Except EvalCause Value := do
  let (a, b) ← numericOperands strict op lhs rhs
  return f.apply a b

/-- The sum of numbers, or the concatenation of texts. -/
def addValues (strict : Bool) (lhs rhs : Value) : Except EvalCause Value :=
  if lhs.kind = .string ∨ rhs.kind = .string then
    match lhs.number?, rhs.number? with
    | some a, some b => .ok (Number.addition.apply a b)
    | _, _ => .ok (.string (lhs.render ++ rhs.render))
  else numericResult strict .add Number.addition lhs rhs

/-- A quotient or a remainder; there is none of an integer by the integer zero. Where the operand
`-1` makes a quotient too large, quotient and remainder are those of the doubles. -/
def divideValues (strict : Bool) (op : BinaryOp) (f : Number.Operation) (fault : ArithmeticFault)
    (lhs rhs : Value) : Except EvalCause Value := do
  match ← numericOperands strict op lhs rhs with
  | (.int a, .int b) =>
    if b = 0 then .error (.arithmetic fault)
    else if a = Int64.minValue ∧ b = -1 then
      return .float (f.onFloats (Integer.toFloat a) (Integer.toFloat b))
    else return f.applyInts a b
  | (a, b) => return f.apply a b

/-- The equality of the language: null equals null alone, a string equals what denotes the same
number or has the same text, numbers compare as numbers. -/
def equalValues : Value → Value → Bool
  | .null, .null => true
  | .null, _ => false
  | _, .null => false
  | .string a, .string b => a == b
  | lhs, rhs =>
    if lhs.kind = .string ∨ rhs.kind = .string then
      match lhs.number?, rhs.number? with
      | some a, some b => a.same b
      | _, _ => lhs.render == rhs.render
    else match lhs, rhs with
      | .boolean a, .boolean b => a == b
      | .object a, .object b => a.same b
      | _, _ =>
        match lhs.number?, rhs.number? with
        | some a, some b => a.same b
        | _, _ => false

/-- The order of two values: of two strings that of their texts, else that of the numbers they
denote; none when one of these is not a number. -/
def compareValues (strict : Bool) (op : BinaryOp) (lhs rhs : Value) :
    Except EvalCause (Option Ordering) := do
  match lhs, rhs with
  | .string a, .string b => return some (Text.compare a.toList b.toList)
  | .null, _ => illegalOperands op lhs rhs
  | _, .null => illegalOperands op lhs rhs
  | _, _ =>
    let (a, b) ← numericOperands strict op lhs rhs
    return a.compare? b

/-- A relation that holds for some orders; operands without an order satisfy none. -/
def relate (strict : Bool) (op : BinaryOp) (holds : Ordering → Bool) (lhs rhs : Value) :
    Except EvalCause Value := do
  return .boolean ((← compareValues strict op lhs rhs).any holds)

/-- Whether the text of a value matches a pattern as a whole. -/
def matchValues (lhs rhs : Value) : Except EvalCause Bool :=
  match rhs with
  | .string pattern =>
    match Pattern.parse? (Pattern.anchored pattern.toList) with
    | some pattern => .ok (pattern.occursIn lhs.render.toList)
    | none => .error (.type .invalidPattern)
  | other => .error (.type (.patternKind other.typeName))

/-- The result of a bit operation, which takes integers only. -/
def bitwise (op : BinaryOp) (f : Int64 → Int64 → Int64) : Value → Value → Except EvalCause Value
  | .integer a, .integer b => .ok (.integer (f a b))
  | lhs, rhs => illegalOperands op lhs rhs

/-- Applies an operator to the values of its two sides. -/
def BinaryOp.apply (op : BinaryOp) (strict : Bool) (lhs rhs : Value) : Except EvalCause Value :=
  match op with
  | add => addValues strict lhs rhs
  | subtract => numericResult strict op Number.subtraction lhs rhs
  | multiply => numericResult strict op Number.multiplication lhs rhs
  | divide => divideValues strict op Number.division .divisionByZero lhs rhs
  | modulo => divideValues strict op Number.remainder .moduloByZero lhs rhs
  | equal => .ok (.boolean (equalValues lhs rhs))
  | notEqual => .ok (.boolean (!equalValues lhs rhs))
  | greater => relate strict op (·.isGT) lhs rhs
  | greaterEq => relate strict op (·.isGE) lhs rhs
  | less => relate strict op (·.isLT) lhs rhs
  | lessEq => relate strict op (·.isLE) lhs rhs
  | matching => (matchValues lhs rhs).map .boolean
  | notMatching => (matchValues lhs rhs).map fun result => .boolean (!result)
  | bitAnd => bitwise op (· &&& ·) lhs rhs
  | bitOr => bitwise op (· ||| ·) lhs rhs
  | bitXor => bitwise op (· ^^^ ·) lhs rhs

def Number.negative : Number → Value
  | int n =>
    match Integer.fit? (-n.toInt) with
    | some m => .integer m
    | none => .float (-Integer.toFloat n)
  | float x => .float (-x)

/-- Applies an operator to the value of its operand. -/
def UnaryOp.apply (op : UnaryOp) (strict : Bool) (operand : Value) : Except EvalCause Value :=
  match op with
  | logicalNot => .ok (.boolean (!operand.isTruthy))
  | bitNot =>
    match operand with
    | .integer n => .ok (.integer (~~~n))
    | other => .error (.type (.unaryOperand op other.typeName))
  | negate => do
    match ← operand.operand strict with
    | some n => return n.negative
    | none => .error (.type (.unaryOperand op operand.typeName))

end ExprScript
