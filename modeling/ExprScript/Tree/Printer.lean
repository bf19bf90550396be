import ExprScript.Decimal.Layout
import ExprScript.Tree.Basic

/-!
# Trees as nested lists

A tree is shown with its operators in front, every compound node in parentheses.
-/

namespace ExprScript

variable {σ : Type}

def spaced (parts : List String) : String :=
  " ".intercalate parts

/-- The parts separated by spaces, in parentheses. -/
def parenthesized (parts : List String) : String :=
  "(" ++ spaced parts ++ ")"

def Literal.text : Literal → String
  | integer value => Integer.text value
  | float value => Double.text value
  | boolean value => if value then "true" else "false"
  | string value => "'" ++ value ++ "'"
  | null => "null"

namespace Expr

mutual

def text : Expr σ → String
  | literal _ value => value.text
  | var name => name.text
  | binary _ op lhs rhs => parenthesized [op.symbol, text lhs, text rhs]
  | unary _ op operand => parenthesized [op.symbol, text operand]
  | logical _ op lhs rhs => parenthesized [op.symbol, text lhs, text rhs]
  | ternary _ condition yes no => parenthesized ["?", text condition, text yes, text no]
  | elvis _ lhs rhs => parenthesized ["?:", text lhs, text rhs]
  | assign _ name value => parenthesized ["set", name.text, text value]
  | get _ target member => parenthesized ["get", text target, member.text]
  | index _ target key => parenthesized ["get", text target, text key]
  | assignMember _ target member value =>
    parenthesized ["set", text target, member.text, text value]
  | assignIndex _ target key value => parenthesized ["set", text target, text key, text value]
  | call _ target method arguments =>
    parenthesized ("call" :: text target :: method.text :: texts arguments)
  | builtin _ function argument => parenthesized ["call", function.text, text argument]

def texts : List (Expr σ) → List String
  | [] => []
  | e :: rest => text e :: texts rest

end

end Expr

namespace Stmt

mutual

def text : Stmt σ → String
  | expr _ body => body.text
  | block _ body => "(block " ++ spaced (texts body) ++ ")"
  | ifThen _ condition yes => parenthesized ["if", condition.text, text yes]
  | ifElse _ condition yes no => parenthesized ["if", condition.text, text yes, text no]
  | loop _ condition body => parenthesized ["while", condition.text, text body]
  | empty _ => "(empty)"

def texts : List (Stmt σ) → List String
  | [] => []
  | s :: rest => text s :: texts rest

end

end Stmt

/-- The text of a unit; the statements of a script are separated by spaces. -/
def Tree.text : Tree σ → String
  | expression body => body.text
  | script body => spaced (Stmt.texts body)

end ExprScript
