import ExprScript.Decimal.Layout

/-!
# Values

What an expression evaluates to. Host objects are referred to by their identity; the reference also
knows the type of the object, so a value can be shown and described without looking the object up.
-/

namespace ExprScript

/-- A host object: its identity, and the place and name of its type. -/
structure ObjectRef where
  id : String
  typeIndex : Nat
  typeName : String
deriving DecidableEq, Repr

namespace ObjectRef

/-- Whether two references are to the same object. -/
def same (a b : ObjectRef) : Bool := a.id == b.id

/-- The text of an object: its type and its identity. -/
def text (ref : ObjectRef) : String := "<" ++ ref.typeName ++ "#" ++ ref.id ++ ">"

end ObjectRef

inductive Value where
  | null
  | boolean (value : Bool)
  | integer (value : Int64)
  | float (value : Float)
  | string (value : String)
  | object (ref : ObjectRef)
deriving DecidableEq

inductive ValueKind where
  | null | boolean | integer | float | string | object
deriving DecidableEq, Repr

def ValueKind.text : ValueKind → String
  | null => "null"
  | boolean => "boolean"
  | integer => "integer"
  | float => "float"
  | string => "string"
  | object => "object"

namespace Value

instance : Inhabited Value := ⟨null⟩

def kind : Value → ValueKind
  | null => .null
  | boolean _ => .boolean
  | integer _ => .integer
  | float _ => .float
  | string _ => .string
  | object _ => .object

/-- The name of a value's type in messages; an object has the name of its own type. -/
def typeName : Value → String
  | object ref => ref.typeName
  | other => other.kind.text

def isNull : Value → Bool
  | null => true
  | _ => false

/-- Null, false, the zeros and the empty string are false in a condition, all else is true. -/
def isTruthy : Value → Bool
  | null => false
  | boolean b => b
  | integer n => n != 0
  | float x => x != 0
  | string s => !s.isEmpty
  | object _ => true

def asString? : Value → Option String
  | string s => some s
  | _ => none

def asBoolean? : Value → Option Bool
  | boolean b => some b
  | _ => none

def asInteger? : Value → Option Int64
  | integer n => some n
  | _ => none

def asFloat? : Value → Option Float
  | integer n => some (Integer.toFloat n)
  | float x => some x
  | _ => none

def asObject? : Value → Option ObjectRef
  | object ref => some ref
  | _ => none

def text : Value → String
  | null => "null"
  | boolean b => if b then "true" else "false"
  | integer n => Integer.text n
  | float x => Double.text x
  | string s => s
  | object ref => ref.text

/-- The text of a value inside other texts, where null is nothing. -/
def render : Value → String
  | null => ""
  | other => other.text

/-- Equality without conversions: numbers of different kinds differ, doubles compare as numbers,
and objects by identity. -/
def same : Value → Value → Bool
  | null, null => true
  | boolean a, boolean b => a == b
  | integer a, integer b => a == b
  | float a, float b => a == b
  | string a, string b => a == b
  | object a, object b => a.same b
  | _, _ => false

end Value

end ExprScript
