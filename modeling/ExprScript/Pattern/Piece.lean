import ExprScript.Pattern.Basic

/-!
# Parts of a pattern

A part of a pattern with what limits its use: how deep its constructs are nested, and how much
memory an automaton for it takes. Patterns past a limit are refused, since a short pattern with
nested repetitions can stand for an automaton of any size.
-/

namespace ExprScript.Pattern

/-- How many constructs may be nested. -/
def maxDepth : Nat := 250

/-- How many bytes an automaton may take. -/
def maxFootprint : Nat := 10 * 1024 * 1024

def stateFootprint : Nat := 32

/-- The bytes of a state that leads on to `count` others. -/
def branchFootprint (count : Nat) : Nat := stateFootprint + 4 * count

namespace CharSet

/-- About how many ranges the set consists of. -/
def rangeCount : CharSet → Nat
  | ranges r => r.length
  | union a b | inter a b | diff a b | symmDiff a b => a.rangeCount + b.rangeCount
  | compl a => a.rangeCount + 1
  | anyCase a | anyAsciiCase a => 2 * a.rangeCount

/-- Whether the set surely has characters of ASCII only. -/
def isAscii : CharSet → Bool
  | ranges r => r.all (·.2 < 0x80)
  | union a b | symmDiff a b => a.isAscii && b.isAscii
  | inter a b => a.isAscii || b.isAscii
  | diff a _ => a.isAscii
  | compl _ => false
  | anyCase a => a.isAscii && a.rangeCount ≤ 1
  | anyAsciiCase a => a.isAscii

/-- About how many bytes the states for a character of the set take. A character is read byte by
byte, so a set beyond ASCII takes a state for every start of its ranges, and some more when it
reaches up to the last characters. -/
def footprint : CharSet → Nat
  | ranges [(first, last)] =>
    if first = last then stateFootprint * (Char.ofNat first).utf8Size
    else if last < 0x80 then stateFootprint
    else 64 + (if last = 0x10FFFF then 800 else 0)
  | set =>
    if set.isAscii then stateFootprint + 8 * set.rangeCount
    else 64 * set.rangeCount + (if set.contains 0x10FFFF then 800 else 0)

end CharSet

structure Piece where
  pattern : Pattern
  depth : Nat
  footprint : Nat

/-- What stands side by side in a pattern: parts of it, and settings of flags, which match nothing but
cannot be repeated. -/
inductive Item where
  | piece (piece : Piece)
  | settings

namespace Piece

/-- The part that matches the empty text. -/
def empty : Piece := ⟨.empty, 0, stateFootprint⟩

/-- The part that matches a character of a set. -/
def step (set : CharSet) : Piece := ⟨.step set, 0, set.footprint⟩

def look (look : Look) : Piece := ⟨.look look, 0, stateFootprint⟩

/-- One part after another. -/
def append (first second : Piece) : Piece :=
  ⟨.seq first.pattern second.pattern, max first.depth second.depth,
    first.footprint + second.footprint⟩

/-- One part or another. -/
def orElse (first second : Piece) : Piece :=
  ⟨.alt first.pattern second.pattern, max first.depth second.depth,
    first.footprint + second.footprint + 4⟩

/-- The same part one level deeper. -/
def nested (piece : Piece) : Piece := { piece with depth := piece.depth + 1 }

/-- Several items in sequence. They nest their parts, unless there is only one. -/
def concat (items : List Item) : Piece :=
  let pieces := items.filterMap fun
    | .piece piece => some piece
    | .settings => none
  let joined := match pieces with
    | [] => empty
    | first :: others => others.foldl append first
  if items.length ≤ 1 then joined else joined.nested

/-- A choice between a part and some others; it nests them when there are any. -/
def choice (first : Piece) (others : List Piece) : Piece :=
  if others.isEmpty then first
  else
    let joined := others.foldl orElse first
    { joined.nested with footprint := joined.footprint + 2 * stateFootprint + 4 }

/-- A group; one that captures marks both its ends. -/
def group (captures : Bool) (piece : Piece) : Piece :=
  { piece.nested with
    footprint := piece.footprint + if captures then 2 * stateFootprint else 0 }

/-- The bytes of a repetition whose body takes `body`: a copy for each round that is counted, and a
choice for each one that may be left out. -/
def iterateFootprint (least : Nat) (most : Option Nat) (body : Nat) : Nat :=
  match most with
  | some most =>
    if most = 0 then stateFootprint
    else body * most + (most - least) * branchFootprint 2 +
      if least < most then stateFootprint else 0
  | none => body * max least 1 + branchFootprint 2

/-- A repeated part. What only matches the empty text need not be repeated more than once. -/
def iterate (least : Nat) (most : Option Nat) (piece : Piece) : Piece :=
  let widthless := piece.pattern.isWidthless
  let least := if widthless then min least 1 else least
  let most := if widthless then some (min (most.getD 1) 1) else most
  ⟨.iterate least most piece.pattern, piece.depth + 1,
    iterateFootprint least most piece.footprint⟩

/-- Whether the part stays within the limits. -/
def isWithinLimits (piece : Piece) : Bool :=
  piece.depth ≤ maxDepth && piece.footprint ≤ maxFootprint

end Piece

end ExprScript.Pattern
