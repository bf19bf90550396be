/-!
# Positions in a source text

A position counts the bytes (in UTF-8) before a place, its line and its column. Only a line feed
starts a line; columns count characters. The position after a text is found by advancing over its
characters, and advancing over two texts in turn is advancing over their concatenation.
-/

namespace ExprScript

structure Position where
  /-- How many bytes stand before the place. -/
  byte : Nat
  /-- The line, from 1. -/
  line : Nat
  /-- The column, from 1. -/
  column : Nat
deriving DecidableEq, Repr

namespace Position

def start : Position := ⟨0, 1, 1⟩

/-- The place that belongs to no text. -/
def nowhere : Position := ⟨0, 0, 0⟩

/-- The position one character further. -/
def advance (p : Position) (c : Char) : Position :=
  if c = '\n' then ⟨p.byte + c.utf8Size, p.line + 1, 1⟩
  else ⟨p.byte + c.utf8Size, p.line, p.column + 1⟩

/-- The position behind a text that starts at `p`. -/
def after (p : Position) (text : List Char) : Position :=
  text.foldl advance p

@[simp] theorem after_nil (p : Position) : p.after [] = p := rfl

@[simp] theorem after_cons (p : Position) (c : Char) (text : List Char) :
    p.after (c :: text) = (p.advance c).after text := rfl

theorem after_append (p : Position) (left right : List Char) :
    p.after (left ++ right) = (p.after left).after right := by
  simp [after]

/-- Positions are ordered by byte, then by line, then by column. -/
instance : Ord Position where
  compare a b :=
    (compare a.byte b.byte).then ((compare a.line b.line).then (compare a.column b.column))

def earlier (a b : Position) : Position :=
  if (compare a b).isLE then a else b

def later (a b : Position) : Position :=
  if (compare a b).isLE then b else a

/-- The line and the column, as positions are named in messages. -/
def text (p : Position) : String :=
  s!"{p.line}:{p.column}"

end Position

end ExprScript
