import ExprScript.Token.Basic
import ExprScript.Tree.Basic

/-!
# Syntax errors
-/

namespace ExprScript

/-- The part of a unit after which something is missing. -/
inductive Construct where
  | ifWord | whileWord | condition | block | expression | arguments | index | thenBranch
  | functionName
deriving DecidableEq, Repr

def Construct.text : Construct → String
  | ifWord => "`if`"
  | whileWord => "`while`"
  | condition => "condition"
  | block => "block"
  | expression => "expression"
  | arguments => "arguments"
  | index => "index"
  | thenBranch => "then branch"
  | functionName => "function name"

/-- How many arguments a call may have. -/
def maxArguments : Nat := 255

/-- Why a token sequence is no unit. -/
inductive SyntaxCause where
  | expectedAfter (expected : Punctuation) (after : Construct) (found : Token)
  | expectedExpression (found : Token)
  | expectedMember (found : Token)
  /-- The left side of an assignment is no variable, member or index. -/
  | invalidTarget
  /-- A call of something that is no member. -/
  | notCallable
  | unclosed (opening : Punctuation)
  | trailing (found : Token)
  | arity (function : Builtin) (found : Nat)
  | tooManyArguments
deriving DecidableEq

def SyntaxCause.text : SyntaxCause → String
  | expectedAfter expected after found =>
    "expected `" ++ expected.text ++ "` after " ++ after.text ++ ", found " ++ found.describe
  | expectedExpression found => "expected expression, found " ++ found.describe
  | expectedMember found => "expected property name after `.`, found " ++ found.describe
  | invalidTarget => "invalid assignment target"
  | notCallable => "expression is not callable"
  | unclosed opening => "unclosed `" ++ opening.text ++ "`"
  | trailing found => "expected end of input, found " ++ found.describe
  | arity function found =>
    "`" ++ function.text ++ "` takes exactly one argument, found " ++ toString found
  | tooManyArguments => "too many arguments, at most " ++ toString maxArguments ++ " are supported"

/-- A syntax error and the span that is to blame. -/
structure SyntaxError where
  span : Span
  cause : SyntaxCause
deriving DecidableEq

namespace SyntaxError

def text (e : SyntaxError) : String :=
  e.span.text ++ ": " ++ e.cause.text

/-- The error against its source: the line, the text to blame and the cause. -/
def render (e : SyntaxError) (source : List Char) : String :=
  let place := match e.span.extract? source with
    | none | some [] => " at end"
    | some lexeme => " at '" ++ String.ofList lexeme ++ "'"
  "[line " ++ toString e.span.start.line ++ "] Error" ++ place ++ ": " ++ e.cause.text

end SyntaxError

end ExprScript
