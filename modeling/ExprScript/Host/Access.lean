import ExprScript.Value.Basic

/-!
# Ways to use a member
-/

namespace ExprScript

/-- What is to be done with a member: read it, write a value of a kind, or call it with arguments
of given kinds. -/
inductive Access where
  | get
  | set (kind : ValueKind)
  | call (kinds : List ValueKind)
deriving DecidableEq, Repr

namespace Access

/-- The access of a call with these arguments. -/
def ofArguments (arguments : List Value) : Access :=
  .call (arguments.map Value.kind)

/-- How many values are passed. -/
def arity : Access → Nat
  | get => 0
  | set _ => 1
  | call kinds => kinds.length

/-- The words for a member that could be used so. -/
def text : Access → String
  | get => "readable property"
  | set kind => "writable property accepting " ++ kind.text
  | call kinds => "method accepting (" ++ ", ".intercalate (kinds.map ValueKind.text) ++ ")"

end Access

end ExprScript
