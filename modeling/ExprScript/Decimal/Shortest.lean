import ExprScript.Decimal.Basic

/-!
# The shortest decimal of a double

Of all decimals that read back as a given double, the one with the fewest digits, and of those the
nearest. For each count of digits only the two neighbours of the value on that grid can qualify.
-/

namespace ExprScript.Decimal

/-- The magnitude of a finite double as a quotient of two naturals; `0 / 1` for all others. -/
def magnitude (x : Float) : Nat × Nat :=
  match x.toModel.unpack with
  | .finite _ m e _ => (m <<< e.toNat, 1 <<< (-e).toNat)
  | _ => (0, 1)

/-- The place of the first digit: the `k` with `10 ^ (k - 1) ≤ num / den < 10 ^ k`. -/
def leadingPlace (num den : Nat) : Int :=
  if den ≤ num then ((Nat.toDigits 10 (num / den)).length : Int)
  else 1 - ((Nat.toDigits 10 ((den - 1) / num)).length : Int)

/-- The two neighbours of `num / den` among the multiples of `10 ^ place`, the nearer first. Of two
equally near the larger is first. -/
def neighbours (num den : Nat) (place : Int) : List Decimal :=
  let num := num * Nat.pow 10 (-place).toNat
  let den := den * Nat.pow 10 place.toNat
  let below := ofNat (num / den) place
  let above := ofNat (num / den + 1) place
  if 2 * (num % den) < den then [below, above] else [above, below]

/-- All digits of a double: `m * 2 ^ -k` is `m * 5 ^ k * 10 ^ -k`. -/
def exact (x : Float) : Decimal :=
  match x.toModel.unpack with
  | .finite _ m e _ => ofNat ((m <<< e.toNat) * Nat.pow 5 (-e).toNat) (min e 0)
  | _ => ⟨0, 0⟩

/-- The shortest decimal that denotes the magnitude of a finite double. -/
def shortest (x : Float) : Decimal :=
  let (num, den) := magnitude x
  if num = 0 then ⟨0, 0⟩ else
  let first := leadingPlace num den
  let candidates := (List.range' 1 17).flatMap fun (count : Nat) => neighbours num den (first - count)
  (candidates.find? fun d => d.toFloat == x.abs).getD (exact x)

end ExprScript.Decimal
