import ExprScript.Token.Basic
import ExprScript.Tree.Operator

/-!
# What may follow an operand

A connective joins an operand to what follows it. The tighter of two connectives takes the operand
between them; of two equally tight ones the left, except for assignments and conditionals.
-/

namespace ExprScript

/-- How tightly a connective binds, from loose to tight. -/
inductive Precedence where
  | lowest | assignment | ternary | logicalOr | logicalAnd | bitOr | bitXor | bitAnd
  | equality | comparison | addition | multiplication | unary | call
deriving DecidableEq, Repr

def Precedence.level : Precedence → Nat
  | lowest => 0
  | assignment => 1
  | ternary => 2
  | logicalOr => 3
  | logicalAnd => 4
  | bitOr => 5
  | bitXor => 6
  | bitAnd => 7
  | equality => 8
  | comparison => 9
  | addition => 10
  | multiplication => 11
  | unary => 12
  | call => 13

inductive Associativity where
  | left | right
deriving DecidableEq, Repr

/-- Assignments and conditionals group to the right, all else to the left. -/
def Precedence.associativity : Precedence → Associativity
  | assignment | ternary => .right
  | _ => .left

/-- What may follow an operand. -/
inductive Connective where
  | binary (op : BinaryOp)
  | logical (op : LogicalOp)
  | assignment
  | ternary
  | elvis
  | call
  | member
  | index
deriving DecidableEq, Repr

namespace Connective

/-- The connective of an operator sign; the signs that only stand before an operand have none. -/
def ofSign? : Sign → Option Connective
  | .plus => some (binary .add)
  | .minus => some (binary .subtract)
  | .asterisk => some (binary .multiply)
  | .slash => some (binary .divide)
  | .percent => some (binary .modulo)
  | .doubleEq => some (binary .equal)
  | .bangEq => some (binary .notEqual)
  | .greater => some (binary .greater)
  | .greaterEq => some (binary .greaterEq)
  | .less => some (binary .less)
  | .lessEq => some (binary .lessEq)
  | .eqTilde => some (binary .matching)
  | .bangTilde => some (binary .notMatching)
  | .ampersand => some (binary .bitAnd)
  | .pipe => some (binary .bitOr)
  | .caret => some (binary .bitXor)
  | .doubleAmpersand => some (logical .and)
  | .doublePipe => some (logical .or)
  | .equals => some assignment
  | .question => some ternary
  | .questionColon => some elvis
  | .bang | .tilde => none

def ofToken? : Token → Option Connective
  | .sign operator => ofSign? operator
  | .punctuation .leftParen => some call
  | .punctuation .dot => some member
  | .punctuation .leftBracket => some index
  | _ => none

def precedence : Connective → Precedence
  | binary op => match op with
    | .add | .subtract => .addition
    | .multiply | .divide | .modulo => .multiplication
    | .equal | .notEqual | .matching | .notMatching => .equality
    | .greater | .greaterEq | .less | .lessEq => .comparison
    | .bitAnd => .bitAnd
    | .bitXor => .bitXor
    | .bitOr => .bitOr
  | logical .and => .logicalAnd
  | logical .or => .logicalOr
  | assignment => .assignment
  | ternary | elvis => .ternary
  | call | member | index => .call

def associativity (c : Connective) : Associativity :=
  c.precedence.associativity

/-- Whether a connective takes an operand away from a context of the given precedence. -/
def binds (c : Connective) (context : Precedence) : Bool :=
  context.level < c.precedence.level ||
  (context.level == c.precedence.level && c.associativity == .right)

end Connective

end ExprScript
