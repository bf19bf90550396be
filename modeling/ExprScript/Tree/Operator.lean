/-!
# Operators of the language
-/

namespace ExprScript

/-- The operators that are applied to the values of both sides. -/
inductive BinaryOp where
  | add | subtract | multiply | divide | modulo
  | equal | notEqual | greater | greaterEq | less | lessEq
  | matching | notMatching
  | bitAnd | bitOr | bitXor
deriving DecidableEq, Repr

/-- The operators that may leave their right side out. -/
inductive LogicalOp where
  | and | or
deriving DecidableEq, Repr

inductive UnaryOp where
  | negate | logicalNot | bitNot
deriving DecidableEq, Repr

def BinaryOp.symbol : BinaryOp → String
  | add => "+"
  | subtract => "-"
  | multiply => "*"
  | divide => "/"
  | modulo => "%"
  | equal => "=="
  | notEqual => "!="
  | greater => ">"
  | greaterEq => ">="
  | less => "<"
  | lessEq => "<="
  | matching => "=~"
  | notMatching => "!~"
  | bitAnd => "&"
  | bitOr => "|"
  | bitXor => "^"

def LogicalOp.symbol : LogicalOp → String
  | and => "&&"
  | or => "||"

def UnaryOp.symbol : UnaryOp → String
  | negate => "-"
  | logicalNot => "!"
  | bitNot => "~"

end ExprScript
