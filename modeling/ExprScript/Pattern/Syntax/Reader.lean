import ExprScript.Pattern.Syntax.Flags
import ExprScript.Text.Blank

/-!
# Reading a pattern

What is left to read of a pattern, the flags in force and the names given to groups so far. A
reading that fails makes the whole pattern invalid. In verbose mode blanks count nowhere between
two signs, and neither do comments, which reach from `#` to the end of the line.
-/

namespace ExprScript.Pattern

/-- How far a pattern is read. -/
structure Reader where
  rest : List Char
  flags : Flags
  names : List (List Char)

/-- A step of reading, which may find the pattern invalid. -/
abbrev Reading := StateT Reader Option

namespace Reading

/-- The longest run of accepted characters, and what follows. In verbose mode blanks and comments
in front of, between and behind them are passed over; the first argument tells that the text starts
inside a comment. -/
def span (verbose : Bool) (accept : Char → Bool) : Bool → List Char → List Char × List Char
  | _, [] => ([], [])
  | true, c :: rest => span verbose accept (c != '\n') rest
  | false, c :: rest =>
    if verbose && Text.isBlank c then span verbose accept false rest
    else if verbose && c == '#' then span verbose accept true rest
    else if accept c then
      let (run, behind) := span verbose accept false rest
      (c :: run, behind)
    else ([], c :: rest)

def rest : Reading (List Char) := return (← get).rest

/-- Goes on behind the next `count` characters. -/
def drop (count : Nat) : Reading Unit :=
  modify fun reader => { reader with rest := reader.rest.drop count }

def setRest (rest : List Char) : Reading Unit :=
  modify fun reader => { reader with rest := rest }

def flags : Reading Flags := return (← get).flags

def setFlags (flags : Flags) : Reading Unit :=
  modify fun reader => { reader with flags := flags }

/-- The longest run of accepted characters, which is passed over. -/
def takeWhile (accept : Char → Bool) : Reading (List Char) := do
  let (run, behind) := span (← flags).verbose accept false (← rest)
  setRest behind
  return run

/-- Passes over blanks and comments in verbose mode. -/
def skipBlanks : Reading Unit := do
  let _ ← takeWhile fun _ => false

/-- Passes over one character and the blanks behind it. -/
def advance : Reading Unit := do
  drop 1
  skipBlanks

/-- The character ahead; at the end the pattern is invalid. -/
def peek : Reading Char := do
  match ← rest with
  | c :: _ => return c
  | [] => failure

/-- Whether `c` is ahead. -/
def sees (c : Char) : Reading Bool := return (← rest).head? == some c

/-- Passes over `c`; the pattern is invalid when something else is ahead. -/
def expect (c : Char) : Reading Unit := do
  if ← sees c then drop 1 else failure

/-- Invalid unless the condition holds. -/
def require (condition : Bool) : Reading Unit :=
  if condition then pure () else failure

/-- The text up to a closing brace, which is passed over. -/
def upToBrace : Reading (List Char) := do
  let inside ← takeWhile (· != '}')
  expect '}'
  return inside

/-- The next `count` characters, blanks left out. -/
def take : Nat → Reading (List Char)
  | 0 => return []
  | count + 1 => do
    let c ← peek
    advance
    return c :: (← take count)

end Reading

end ExprScript.Pattern
