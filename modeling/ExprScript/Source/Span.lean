import ExprScript.Source.Position

/-!
# Spans

A span is the part of a source text from one position to another.
-/

namespace ExprScript

/-- The text without its first `count` bytes, unless that cuts a character or there are fewer. -/
def dropBytes? : Nat → List Char → Option (List Char)
  | 0, text => some text
  | _ + 1, [] => none
  | count + 1, c :: rest =>
    if c.utf8Size ≤ count + 1 then dropBytes? (count + 1 - c.utf8Size) rest else none

/-- The first `count` bytes of a text, unless that cuts a character or there are fewer. -/
def takeBytes? : Nat → List Char → Option (List Char)
  | 0, _ => some []
  | _ + 1, [] => none
  | count + 1, c :: rest =>
    if c.utf8Size ≤ count + 1 then (takeBytes? (count + 1 - c.utf8Size) rest).map (c :: ·) else none

/-- The part of a source text from `start` up to `stop`. -/
structure Span where
  start : Position
  stop : Position
deriving DecidableEq, Repr

namespace Span

/-- The empty span at a position. -/
def point (p : Position) : Span := ⟨p, p⟩

/-- The span that belongs to no text. -/
def nowhere : Span := .point .nowhere

/-- The least span that covers both. -/
def extend (a b : Span) : Span :=
  ⟨a.start.earlier b.start, a.stop.later b.stop⟩

/-- The text of the span, when its ends are in order, inside the source and between characters. -/
def extract? (span : Span) (source : List Char) : Option (List Char) :=
  if span.start.byte ≤ span.stop.byte then
    (dropBytes? span.start.byte source).bind (takeBytes? (span.stop.byte - span.start.byte))
  else none

/-- A span is named by its start. -/
def text (span : Span) : String :=
  span.start.text

end Span

end ExprScript
