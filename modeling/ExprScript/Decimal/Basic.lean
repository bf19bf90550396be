/-!
# Decimals

A decimal is a natural number times a power of ten. It is read from digits with the trailing zeros
dropped, so that all spellings of one number (`1.50`, `1.5`, `15e-1`) give the same decimal, and it
denotes the nearest double.
-/

namespace ExprScript

/-- The number `coefficient * 10 ^ exponent`. -/
structure Decimal where
  coefficient : Nat
  exponent : Int
deriving DecidableEq, Repr

namespace Decimal

/-- The digits without the zeros at their end. -/
def trimZeros (digits : List Char) : List Char :=
  (digits.reverse.dropWhile (· == '0')).reverse

/-- The decimal written as `digits` times `10 ^ exponent`, in its shortest form. -/
def ofDigits (digits : List Char) (exponent : Int) : Decimal :=
  let kept := trimZeros digits
  ⟨Nat.ofDigitChars 10 kept 0, exponent + (digits.length - kept.length : Nat)⟩

/-- The decimal of a coefficient that may end in zeros. -/
def ofNat (n : Nat) (exponent : Int) : Decimal :=
  ofDigits (Nat.toDigits 10 n) exponent

def digits (d : Decimal) : List Char :=
  Nat.toDigits 10 d.coefficient

/-- How many digits stand before the point; zero or negative when the number is below one. -/
def pointAt (d : Decimal) : Int :=
  d.digits.length + d.exponent

/-- The nearest double, a tie going to the even neighbour. -/
def toFloat (d : Decimal) : Float :=
  Float.ofScientific d.coefficient (d.exponent < 0) d.exponent.natAbs

end Decimal

end ExprScript
