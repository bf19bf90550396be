import ExprScript.Value.Basic

/-!
# Declared types of parameters
-/

namespace ExprScript

/-- What a parameter of a host method is declared to take. -/
inductive ParamType where
  | any | boolean | integer | float | number | string | object
deriving DecidableEq, Repr

namespace ParamType

def text : ParamType → String
  | any => "Any"
  | boolean => "Boolean"
  | integer => "Integer"
  | float => "Float"
  | number => "Number"
  | string => "String"
  | object => "Object"

/-- Whether arguments of a kind are just what is declared. `any` and `number` are declared for
several kinds and are exact for none, and null is exact for no type. -/
def isExact : ParamType → ValueKind → Bool
  | boolean, .boolean | integer, .integer | float, .float | string, .string
  | object, .object => true
  | _, _ => false

/-- Whether arguments of a kind can be passed. -/
def accepts : ParamType → ValueKind → Bool
  | any, _ => true
  | boolean, .boolean => true
  | integer, .integer => true
  | float, .integer | float, .float => true
  | number, .integer | number, .float => true
  | string, .string | string, .null => true
  | object, .object | object, .null => true
  | _, _ => false

/-- The argument as the method sees it: an integer for a `float` is widened. -/
def coerce : ParamType → Value → Value
  | float, .integer n => .float (Integer.toFloat n)
  | _, value => value

theorem accepts_of_isExact {p : ParamType} {k : ValueKind} (h : p.isExact k) : p.accepts k := by
  cases p <;> cases k <;> simp_all [isExact, accepts]

end ParamType

end ExprScript
