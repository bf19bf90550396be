import ExprScript.Decimal.Basic
import ExprScript.Integer.Basic

/-!
# Reading numbers

The texts that denote an integer (an optional sign and digits) and those that denote a double (an
optional sign, then digits with an optional point and exponent, or the name of a special value).
-/

namespace ExprScript

/-- Whether a text starts with a minus sign, and what follows an optional sign. -/
def splitSign : List Char → Bool × List Char
  | '-' :: rest => (true, rest)
  | '+' :: rest => (false, rest)
  | rest => (false, rest)

/-- A nonempty run of decimal digits. -/
def readDigits? (text : List Char) : Option Nat :=
  if text.isEmpty || !text.all Char.isDigit then none else some (Nat.ofDigitChars 10 text 0)

def readInt? (text : List Char) : Option Int :=
  let (negative, digits) := splitSign text
  (readDigits? digits).map fun n => if negative then -(n : Int) else n

/-- An integer of the language: one that fits. -/
def Integer.read? (text : List Char) : Option Int64 :=
  (readInt? text).bind Integer.fit?

namespace Decimal

/-- The power of ten after the digits: nothing, or `e` and an integer. -/
def readExponent? : List Char → Option Int
  | [] => some 0
  | mark :: rest => if mark = 'e' ∨ mark = 'E' then readInt? rest else none

/-- Digits with at most one point, at least one digit, and an optional exponent. -/
def read? (text : List Char) : Option Decimal :=
  let whole := text.takeWhile Char.isDigit
  let (fraction, rest) := match text.dropWhile Char.isDigit with
    | '.' :: rest => (rest.takeWhile Char.isDigit, rest.dropWhile Char.isDigit)
    | rest => ([], rest)
  if whole.isEmpty && fraction.isEmpty then none
  else (readExponent? rest).map fun e => ofDigits (whole ++ fraction) (e - fraction.length)

end Decimal

namespace Double

/-- The special values, in letters of either case. -/
def readName? (text : List Char) : Option Float :=
  match text.map Char.toLower with
  | ['i', 'n', 'f'] | ['i', 'n', 'f', 'i', 'n', 'i', 't', 'y'] => some (1.0 / 0.0)
  | ['n', 'a', 'n'] => some (0.0 / 0.0)
  | _ => none

/-- The double that a text denotes: the nearest to the decimal written, or a special value. -/
def read? (text : List Char) : Option Float :=
  let (negative, magnitude) := splitSign text
  let unsigned := match Decimal.read? magnitude with
    | some d => some d.toFloat
    | none => readName? magnitude
  unsigned.map fun x => if negative then -x else x

end Double

end ExprScript
