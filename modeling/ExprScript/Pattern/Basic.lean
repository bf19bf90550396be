import ExprScript.Pattern.CharClass

/-!
# Patterns

A pattern is a regular expression over two kinds of leaves: sets of characters, one of which it
passes over, and conditions on the place where it stands. Which alternative is tried first makes no
difference to whether a text matches, so it is not recorded.
-/

namespace ExprScript.Pattern

/-- A regular expression whose leaves pass over a character of a `σ` or test a place by a `κ`. -/
inductive Regex (σ κ : Type) where
  | empty
  | step (set : σ)
  | look (test : κ)
  | seq (first second : Regex σ κ)
  | alt (first second : Regex σ κ)
  /-- The body from `least` to `most` times, or from `least` times on. -/
  | iterate (least : Nat) (most : Option Nat) (body : Regex σ κ)
deriving DecidableEq, Repr

namespace Regex

variable {σ κ σ' κ' : Type}

/-- The same expression over other leaves. -/
def map (f : σ → σ') (g : κ → κ') : Regex σ κ → Regex σ' κ'
  | empty => .empty
  | step set => .step (f set)
  | look test => .look (g test)
  | seq r s => .seq (r.map f g) (s.map f g)
  | alt r s => .alt (r.map f g) (s.map f g)
  | iterate least most r => .iterate least most (r.map f g)

/-- Whether all that the expression matches is empty. -/
def isWidthless : Regex σ κ → Bool
  | empty => true
  | step _ => false
  | look _ => true
  | seq r s => r.isWidthless && s.isWidthless
  | alt r s => r.isWidthless && s.isWidthless
  | iterate _ most r => most == some 0 || r.isWidthless

end Regex

/-- A condition on the characters before and after a place, told by whether they belong to words. -/
inductive WordEdge where
  | boundary
  | inside
  | start
  | stop
  | startHalf
  | stopHalf
deriving DecidableEq, Repr

/-- Whether the condition holds between two characters. -/
def WordEdge.holds : WordEdge → Bool → Bool → Bool
  | boundary, before, after => before != after
  | inside, before, after => before == after
  | start, before, after => !before && after
  | stop, before, after => before && !after
  | startHalf, before, _ => !before
  | stopHalf, _, after => !after

/-- How lines end: with a line feed, or also with a carriage return or with both together. -/
inductive LineEnding where
  | lineFeed
  | any
deriving DecidableEq, Repr

inductive Look where
  | textStart
  | textStop
  | lineStart (ending : LineEnding)
  | lineStop (ending : LineEnding)
  /-- `words` are the characters that belong to words. -/
  | word (edge : WordEdge) (words : CharSet)
deriving DecidableEq, Repr

/-- Whether the condition holds between the characters before and after a place; none stands at the
ends of the text. -/
def Look.holds (look : Look) (before after : Option Char) : Bool :=
  match look with
  | textStart => before.isNone
  | textStop => after.isNone
  | lineStart .lineFeed => before.isNone || before == some '\n'
  | lineStop .lineFeed => after.isNone || after == some '\n'
  | lineStart .any =>
    before.isNone || before == some '\n' || before == some '\r' && after != some '\n'
  | lineStop .any =>
    after.isNone || after == some '\r' || after == some '\n' && before != some '\r'
  | word edge words =>
    let inWord (c : Option Char) : Bool := c.any fun c => words.contains c.toNat
    edge.holds (inWord before) (inWord after)

end ExprScript.Pattern

namespace ExprScript

/-- A regular expression over the characters and places of a text. -/
abbrev Pattern := Pattern.Regex Pattern.CharSet Pattern.Look

end ExprScript
