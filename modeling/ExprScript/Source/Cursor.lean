import ExprScript.Source.Position

/-!
# Cursors

A cursor reads a source text from left to right and knows its position. Whatever was taken, the
text taken and the text still ahead make up the source, and the position is the one behind the text
taken.
-/

namespace ExprScript

/-- A place in a source text together with the text ahead. -/
structure Cursor where
  position : Position
  rest : List Char
deriving DecidableEq, Repr

namespace Cursor

/-- A cursor at the start of a text. -/
def ofText (text : List Char) : Cursor := ⟨.start, text⟩

/-- How many bytes stand before the cursor. -/
def byteOffset (c : Cursor) : Nat := c.position.byte

/-- The next character and its byte offset. -/
def peek (c : Cursor) : Option (Nat × Char) :=
  c.rest.head?.map (c.byteOffset, ·)

/-- The cursor `count` characters further, or at the end. -/
def advance (c : Cursor) (count : Nat) : Cursor :=
  ⟨c.position.after (c.rest.take count), c.rest.drop count⟩

/-- The character after the next one and its byte offset. -/
def peekNext (c : Cursor) : Option (Nat × Char) :=
  (c.advance 1).peek

def take (c : Cursor) : Option (Nat × Char) × Cursor :=
  (c.peek, c.advance 1)

/-- Takes the next character if it is `target`, and tells whether it was. -/
def takeIf (c : Cursor) (target : Char) : Bool × Cursor :=
  if c.rest.head? = some target then (true, c.advance 1) else (false, c)

/-- Takes characters as long as they satisfy a condition. -/
def takeWhile (c : Cursor) (condition : Char → Bool) : Cursor :=
  c.advance (c.rest.takeWhile condition).length

theorem advance_append (p : Position) (text rest : List Char) :
    advance ⟨p, text ++ rest⟩ text.length = ⟨p.after text, rest⟩ := by
  simp [advance]

theorem takeWhile_eq (c : Cursor) (condition : Char → Bool) :
    c.takeWhile condition =
      ⟨c.position.after (c.rest.takeWhile condition), c.rest.dropWhile condition⟩ := by
  obtain ⟨p, rest⟩ := c
  have passed := advance_append p (rest.takeWhile condition) (rest.dropWhile condition)
  rwa [List.takeWhile_append_dropWhile] at passed

end Cursor

end ExprScript
