import ExprScript.Decimal.Shortest
import ExprScript.Integer.Basic

/-!
# The text of a double

A double is shown by its shortest decimal. Values display positionally from `0.0001` up to below
`10 ^ 16`, always with a point, and with an exponent elsewhere; descriptions of tokens use plain
positional digits with no needless point.
-/

namespace ExprScript

namespace Decimal

/-- The digits before the point, at least one. -/
def wholeDigits (d : Decimal) : List Char :=
  if d.pointAt ≤ 0 then ['0']
  else d.digits.take d.pointAt.toNat ++ List.replicate (d.pointAt.toNat - d.digits.length) '0'

/-- The digits after the point, perhaps none. -/
def fractionDigits (d : Decimal) : List Char :=
  List.replicate (-d.pointAt).toNat '0' ++ d.digits.drop d.pointAt.toNat

/-- Positional digits, with a point only before a fraction. -/
def plain (d : Decimal) : List Char :=
  match d.fractionDigits with
  | [] => d.wholeDigits
  | fraction => d.wholeDigits ++ '.' :: fraction

/-- Positional digits, always with a point and a digit after it. -/
def pointed (d : Decimal) : List Char :=
  match d.fractionDigits with
  | [] => d.wholeDigits ++ ['.', '0']
  | fraction => d.wholeDigits ++ '.' :: fraction

/-- One digit, the others after a point, and the power of ten. -/
def scientific (d : Decimal) : List Char :=
  let mantissa := match d.digits with
    | [] => []
    | [lead] => [lead]
    | lead :: others => lead :: '.' :: others
  mantissa ++ 'e' :: Integer.digits (d.pointAt - 1)

/-- Positional while the first digit stands between four places after the point and sixteen before
it, else scientific. -/
def display (d : Decimal) : List Char :=
  if -3 ≤ d.pointAt ∧ d.pointAt ≤ 16 then d.pointed else d.scientific

end Decimal

namespace Double

/-- Whether a double carries a minus sign, negative zero included. -/
def isNegative (x : Float) : Bool :=
  match x.toModel.unpack with
  | .infinity .negative | .zero .negative | .finite .negative .. => true
  | _ => false

/-- The text of a double in a given layout of its digits. -/
def textWith (layout : Decimal → List Char) (x : Float) : String :=
  if x.isNaN then "NaN"
  else
    let magnitude := if x.isInf then "inf".toList else layout (Decimal.shortest x)
    String.ofList (if isNegative x then '-' :: magnitude else magnitude)

def text (x : Float) : String :=
  textWith Decimal.display x

/-- The text by which a number token is described. -/
def plainText (x : Float) : String :=
  textWith Decimal.plain x

end Double

end ExprScript
