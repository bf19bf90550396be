import ExprScript.Decimal.Reading
import ExprScript.Eval.Error
import ExprScript.Text.Blank
import ExprScript.Value.Basic

/-!
# Numeric views of values

Numbers are numbers, and so are strings that denote one when trimmed: an integer, else a finite
double. Null counts as zero as an operand, unless evaluation is strict.
-/

namespace ExprScript

inductive Number where
  | int (value : Int64)
  | float (value : Float)
deriving DecidableEq

namespace Number

def toFloat : Number → Float
  | int n => Integer.toFloat n
  | float x => x

def value : Number → Value
  | int n => .integer n
  | float x => .float x

/-- Equality of numbers: exact for two integers, else of the doubles. -/
def same : Number → Number → Bool
  | int a, int b => a == b
  | a, b => a.toFloat == b.toFloat

/-- The order of two doubles; none when one is not a number. -/
def compareFloats (x y : Float) : Option Ordering :=
  if x < y then some .lt else if x == y then some .eq else if y < x then some .gt else none

/-- The order of two numbers: exact for two integers, else of the doubles. -/
def compare? : Number → Number → Option Ordering
  | int a, int b => some (Ord.compare a.toInt b.toInt)
  | a, b => compareFloats a.toFloat b.toFloat

def read? (text : List Char) : Option Number :=
  let trimmed := Text.trim text
  match Integer.read? trimmed with
  | some n => some (int n)
  | none => ((Double.read? trimmed).filter (·.isFinite)).map float

end Number

namespace Value

/-- The number that a value is or denotes. -/
def number? : Value → Option Number
  | integer n => some (.int n)
  | float x => some (.float x)
  | string s => Number.read? s.toList
  | _ => none

/-- The number that a value is as an operand. -/
def operand (strict : Bool) : Value → Except EvalCause (Option Number)
  | null => if strict then .error (.type .nullOperand) else .ok (some (.int 0))
  | other => .ok other.number?

end Value

end ExprScript
