/-!
# Flags

The flags that change what a pattern means from where they are set to the end of the group.
-/

namespace ExprScript.Pattern

/-- The state of the flags. Greediness, the flag `U`, only chooses among matches. -/
structure Flags where
  ignoreCase : Bool
  multiLine : Bool
  dotAll : Bool
  unicode : Bool
  anyLineEnding : Bool
  /-- Blanks and comments in the pattern do not count. -/
  verbose : Bool
deriving DecidableEq, Repr

namespace Flags

/-- The flags at the start of a pattern. -/
def initial : Flags := ⟨false, false, false, true, false, false⟩

/-- Sets the flag that a letter names. -/
def set? (flags : Flags) (letter : Char) (on : Bool) : Option Flags :=
  match letter with
  | 'i' => some { flags with ignoreCase := on }
  | 'm' => some { flags with multiLine := on }
  | 's' => some { flags with dotAll := on }
  | 'u' => some { flags with unicode := on }
  | 'R' => some { flags with anyLineEnding := on }
  | 'x' => some { flags with verbose := on }
  | 'U' => some flags
  | _ => none

/-- Reads the letters of a group up to the `:` or `)` behind them; those behind a hyphen are turned
off. `seen` holds the signs read so far in reverse: none may come twice, and no hyphen last. -/
def read? (flags : Flags) (on : Bool) (seen : List Char) :
    List Char → Option (Flags × List Char × List Char)
  | [] => none
  | c :: rest =>
    if c = ':' ∨ c = ')' then
      if seen.head? = some '-' then none else some (flags, seen, c :: rest)
    else if c ∈ seen then none
    else if c = '-' then flags.read? false (c :: seen) rest
    else match flags.set? c on with
      | some changed => changed.read? on (c :: seen) rest
      | none => none

end Flags

end ExprScript.Pattern
