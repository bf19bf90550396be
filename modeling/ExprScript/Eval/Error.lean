import ExprScript.Host.Access
import ExprScript.Host.TextMember
import ExprScript.Source.Span
import ExprScript.Tree.Operator

/-!
# Evaluation errors

Why an operation failed. The operation itself knows no place in a source; the evaluator adds the
span of the expression to blame.
-/

namespace ExprScript

/-- A value of a type that an operation does not take. -/
inductive TypeFault where
  | nullOperand
  | binaryOperands (op : BinaryOp) (lhs rhs : String)
  | unaryOperand (op : UnaryOp) (operand : String)
  | patternKind (found : String)
  | invalidPattern
  | noSize (typeName : String)
  | noMembers (typeName : String)
deriving DecidableEq, Repr

def TypeFault.text : TypeFault → String
  | nullOperand => "null operand in strict mode"
  | binaryOperands op lhs rhs => "cannot apply `" ++ op.symbol ++ "` to " ++ lhs ++ " and " ++ rhs
  | unaryOperand op operand => "cannot apply `" ++ op.symbol ++ "` to " ++ operand
  | patternKind found => "pattern must be a string, found " ++ found
  | invalidPattern => "invalid pattern"
  | noSize typeName => typeName ++ " has no size"
  | noMembers typeName => typeName ++ " values have no members"

/-- An integer operation without a result. -/
inductive ArithmeticFault where
  | divisionByZero | moduloByZero
deriving DecidableEq, Repr

def ArithmeticFault.text : ArithmeticFault → String
  | divisionByZero => "division by zero"
  | moduloByZero => "modulo by zero"

inductive EvalCause where
  /-- A member of null. -/
  | nullAccess (member : String)
  | memberNotFound (typeName member : String) (access : Access)
  | type (fault : TypeFault)
  | arithmetic (fault : ArithmeticFault)
  | undefinedVariable (name : String)
  | invocation (member : String) (error : HostError)
deriving DecidableEq, Repr

def EvalCause.text : EvalCause → String
  | nullAccess member => "cannot access `" ++ member ++ "` on null"
  | memberNotFound typeName member access =>
    "no " ++ access.text ++ " `" ++ member ++ "` on " ++ typeName
  | type fault => "type error: " ++ fault.text
  | arithmetic fault => "arithmetic error: " ++ fault.text
  | undefinedVariable name => "undefined variable `" ++ name ++ "`"
  | invocation member error => "`" ++ member ++ "` failed: " ++ error.text

/-- A failed evaluation and the span to blame. -/
structure EvalError where
  span : Span
  cause : EvalCause
deriving DecidableEq, Repr

def EvalError.text (e : EvalError) : String :=
  e.span.text ++ ": " ++ e.cause.text

end ExprScript
