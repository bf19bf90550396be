import ExprScript.Text.Case.Folding

/-!
# Character sets

The sets of characters that a pattern names by its classes, as expressions over ranges.
-/

namespace ExprScript.Pattern

inductive CharSet where
  | ranges (ranges : Text.Ranges)
  | union (a b : CharSet)
  | inter (a b : CharSet)
  | diff (a b : CharSet)
  | symmDiff (a b : CharSet)
  | compl (a : CharSet)
  /-- The characters that differ from one of `a` in case at most. -/
  | anyCase (a : CharSet)
  /-- Those that differ in the case of an ASCII letter at most. -/
  | anyAsciiCase (a : CharSet)
deriving DecidableEq, Repr

namespace CharSet

def empty : CharSet := .ranges []

def single (c : Char) : CharSet := .ranges [(c.toNat, c.toNat)]

def ofRange (first last : Char) : CharSet := .ranges [(first.toNat, last.toNat)]

def all : CharSet := .ranges [(0, 0x10FFFF)]

def ascii : CharSet := .ranges [(0, 0x7F)]

def unions (sets : List CharSet) : CharSet := sets.foldr .union empty

/-- The code point of the same ASCII letter in the other case. -/
def asciiVariant? (code : Nat) : Option Nat :=
  if 0x41 ≤ code ∧ code ≤ 0x5A then some (code + 0x20)
  else if 0x61 ≤ code ∧ code ≤ 0x7A then some (code - 0x20)
  else none

/-- Whether a code point belongs to the set. -/
def contains : CharSet → Nat → Bool
  | ranges r, code => r.contains code
  | union a b, code => a.contains code || b.contains code
  | inter a b, code => a.contains code && b.contains code
  | diff a b, code => a.contains code && !b.contains code
  | symmDiff a b, code => a.contains code != b.contains code
  | compl a, code => !a.contains code
  | anyCase a, code => a.contains code || (Text.caseVariants code).any a.contains
  | anyAsciiCase a, code => a.contains code || (asciiVariant? code).any a.contains

end CharSet

end ExprScript.Pattern
