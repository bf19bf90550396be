import ExprScript.Pattern.Basic

/-!
# Matching

A text of `n` characters has `n + 1` places. A set of places is kept as the number whose binary
digits tell which places belong to it. Of a set of places where a match may start, an expression
finds the set of all places where such a match may end, in one pass over the expression.
-/

namespace ExprScript.Pattern

/-- A set of places, the lowest digit for the place before the first character. -/
abbrev Places := Nat

/-- The places for which a list, in order, tells that they belong to the set. -/
def Places.ofList : List Bool → Places
  | [] => 0
  | flag :: rest => flag.toNat + 2 * Places.ofList rest

/-- The places that `f` reaches from `places` by `count` steps. -/
def afterSteps (f : Places → Places) : Nat → Places → Places
  | 0, places => places
  | count + 1, places => afterSteps f count (f places)

/-- The places that `f` reaches from `places` by up to `bound` steps. When a step adds no place, no
further one does. -/
def withinSteps (f : Places → Places) : Nat → Places → Places
  | 0, places => places
  | bound + 1, places =>
    let more := places ||| f places
    if more = places then places else withinSteps f bound more

/-- The ends of the matches that start at `starts`, in a text with `count` places; the leaves are the
places before the characters of a set, and those where a condition holds. -/
def Regex.ends (count : Nat) : Regex Places Places → Places → Places
  | empty, starts => starts
  | step places, starts => (starts &&& places) <<< 1
  | look places, starts => starts &&& places
  | seq r s, starts => s.ends count (r.ends count starts)
  | alt r s, starts => r.ends count starts ||| s.ends count starts
  | iterate least most r, starts =>
    let rounds := match most with
      | some most => most - least
      | none => count
    withinSteps (r.ends count) rounds (afterSteps (r.ends count) least starts)

/-- The places before the characters of a set. -/
def placesOfSet (text : List Char) (set : CharSet) : Places :=
  .ofList (text.map fun c => set.contains c.toNat)

/-- The places where a condition holds. -/
def placesOfLook (text : List Char) (look : Look) : Places :=
  .ofList (List.zipWith look.holds (none :: text.map some) (text.map some ++ [none]))

end ExprScript.Pattern

namespace ExprScript

/-- Whether the pattern matches some part of the text. -/
def Pattern.occursIn (pattern : Pattern) (text : List Char) : Bool :=
  let count := text.length + 1
  let leaves := pattern.map (placesOfSet text) (placesOfLook text)
  leaves.ends count (.ofList (List.replicate count true)) != 0

end ExprScript
