/-!
# Hexadecimal numbers

The values of hexadecimal digits, in either case, and of numbers written with them.
-/

namespace ExprScript.Text

def hexValue? (c : Char) : Option Nat :=
  if c.isDigit then some (c.toNat - '0'.toNat)
  else if 'a' ≤ c ∧ c ≤ 'f' then some (c.toNat - 'a'.toNat + 10)
  else if 'A' ≤ c ∧ c ≤ 'F' then some (c.toNat - 'A'.toNat + 10)
  else none

/-- The number that hexadecimal digits write, read on from `value`. -/
def hexNumberFrom? (value : Nat) : List Char → Option Nat
  | [] => some value
  | c :: rest =>
    match hexValue? c with
    | some digit => hexNumberFrom? (16 * value + digit) rest
    | none => none

/-- The number that hexadecimal digits write; there must be one digit at least. -/
def hexNumber? (digits : List Char) : Option Nat :=
  if digits.isEmpty then none else hexNumberFrom? 0 digits

/-- The character whose code hexadecimal digits write; surrogates are no characters. -/
def hexCharacter? (digits : List Char) : Option Char :=
  match hexNumber? digits with
  | some code => if code.isValidChar then some (Char.ofNat code) else none
  | none => none

end ExprScript.Text
