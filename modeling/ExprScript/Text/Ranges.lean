/-!
# Sets of characters as ranges

A property of characters is stored as its ranges of code points, in ascending order. Case mappings
are stored as runs: code points at a fixed step that all move by the same distance.
-/

namespace ExprScript.Text

/-- Ascending, disjoint ranges of code points, both ends included. -/
abbrev Ranges := List (Nat × Nat)

/-- Whether a code point lies in one of the ranges. -/
def Ranges.contains : Ranges → Nat → Bool
  | [], _ => false
  | (low, high) :: rest, code =>
    if code < low then false else if code ≤ high then true else Ranges.contains rest code

/-- The code points `first, first + step, …, last`, each mapped to the one `shift` away. -/
structure CaseRun where
  first : Nat
  last : Nat
  step : Nat
  shift : Int

/-- Where a run takes a code point that belongs to it. -/
def CaseRun.map? (run : CaseRun) (code : Nat) : Option Nat :=
  if run.first ≤ code ∧ code ≤ run.last ∧ (code - run.first) % run.step = 0 then
    some ((code : Int) + run.shift).toNat
  else none

/-- The form of a character given by runs and expansions; a character in neither is its own form. -/
def caseForm (runs : List CaseRun) (expansions : List (Nat × List Nat)) (c : Char) : List Char :=
  match runs.findSome? (·.map? c.toNat) with
  | some code => [Char.ofNat code]
  | none => match expansions.lookup c.toNat with
    | some codes => codes.map Char.ofNat
    | none => [c]

end ExprScript.Text
