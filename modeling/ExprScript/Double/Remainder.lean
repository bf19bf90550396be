/-!
# Remainder of doubles

The remainder `x - n * y`, where `n` is `x / y` cut off toward zero. It is exact: on a common
exponent both operands are integers, and the remainder of two integers is again a double.
-/

namespace ExprScript.Double

open Float.Model Float.Model.UnpackedFloat

/-- The remainder of two decoded doubles; a zero result has the sign of the first operand. -/
def remainderParts : UnpackedFloat → UnpackedFloat → UnpackedFloat
  | .notANumber, _ => .notANumber
  | _, .notANumber => .notANumber
  | .infinity _, _ => .notANumber
  | _, .zero _ => .notANumber
  | .zero sign, _ => .zero sign
  | x, .infinity _ => x
  | .finite sign m₁ e₁ _, .finite _ m₂ e₂ _ =>
    let exponent := min e₁ e₂
    let left := m₁ <<< (e₁ - exponent).toNat
    let right := m₂ <<< (e₂ - exponent).toNat
    normalize Format.binary64 (sign.apply (left % right)) exponent sign

/-- The remainder of `x` by `y`, with the sign of `x`. -/
def remainder (x y : Float) : Float :=
  .ofModel (.pack (remainderParts x.toModel.unpack y.toModel.unpack))

end ExprScript.Double
