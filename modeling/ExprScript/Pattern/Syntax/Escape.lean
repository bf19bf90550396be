import ExprScript.Pattern.Basic
import ExprScript.Pattern.Property
import ExprScript.Pattern.Syntax.Reader
import ExprScript.Text.Hexadecimal
import ExprScript.Text.Search

/-!
# Escapes

What a backslash and the characters behind it stand for: a character, a set of characters or a
condition on the place. Without the flag `u` a pattern must not match a part of a character, so the
sets that would reach beyond ASCII, and characters beyond it that are written as one byte, are
refused.
-/

namespace ExprScript.Pattern

inductive Escape where
  | literal (c : Char)
  | set (set : CharSet)
  | look (look : Look)

namespace Reading

def wordSet : Reading CharSet := do
  return if (← flags).unicode then CharClass.word.unicodeSet else CharClass.word.asciiSet

/-- The set with the variants in case that the flags ask for. -/
def withCase (set : CharSet) : Reading CharSet := do
  let flags ← flags
  if !flags.ignoreCase then return set
  return if flags.unicode then .anyCase set else .anyAsciiCase set

def complement (set : CharSet) : Reading CharSet := do
  require (← flags).unicode
  return .compl set

/-- The set itself or its complement. -/
def complementIf (negated : Bool) (set : CharSet) : Reading CharSet :=
  if negated then complement set else pure set

/-- A character by its code, written behind `x`, `u` or `U` with a fixed number of digits or with
any number of them in braces. -/
def codeEscape (digitCount : Nat) : Reading Char := do
  advance
  let braced ← sees '{'
  let digits ← if braced then do drop 1; upToBrace else take digitCount
  match Text.hexCharacter? digits with
  | some c =>
    require (braced || digitCount != 2 || (← flags).unicode || c.toNat < 0x80)
    return c
  | none => failure

/-- The set of a class that is written as a letter; a capital letter stands for the complement. -/
def classEscape (kind : CharClass) (negated : Bool) : Reading CharSet := do
  drop 1
  complementIf negated (if (← flags).unicode then kind.unicodeSet else kind.asciiSet)

/-- The text before the first occurrence of `separator`, and the text behind it. -/
def cutAt? (separator text : List Char) : Option (List Char × List Char) :=
  (Text.find? separator text).map fun i => (text.take i, text.drop (i + separator.length))

/-- The set that a text in the braces of `\p` names. -/
def namedSet? (text : List Char) : Option CharSet :=
  match cutAt? ['!', '='] text <|> cutAt? [':'] text <|> cutAt? ['='] text with
  | some (name, value) => propertyValue? name value
  | none => property? text

/-- The set of a property, by a name of one letter or by a text in braces. -/
def propertyEscape (negated : Bool) : Reading CharSet := do
  advance
  let c ← peek
  let name ← if c = '{' then do drop 1; upToBrace else do advance; pure [c]
  require (c != '\\' && (← flags).unicode)
  match namedSet? name with
  | some set => complementIf negated (← withCase set)
  | none => failure

/-- The kinds of word boundaries that are written in braces behind `\b`. -/
def namedEdges : List (String × WordEdge) :=
  [("start", .start), ("end", .stop), ("start-half", .startHalf), ("end-half", .stopHalf)]

/-- Reads the kind of a word boundary in braces. When no letter or hyphen follows the brace, it is
left for a repetition count. -/
def boundaryEscape : Reading WordEdge := do
  if !(← sees '{') then return .boundary
  let reader ← get
  advance
  let c ← peek
  if !(c.isAlpha || c == '-') then
    set reader
    return .boundary
  match namedEdges.lookup (String.ofList (← upToBrace)) with
  | some edge => return edge
  | none => failure

/-- Whether a backslash in front leaves the character as it is: punctuation, blanks and control
characters of ASCII, angle brackets excepted. -/
def isEscapable (c : Char) : Bool :=
  c.toNat < 0x80 && !c.isAlphanum && c != '<' && c != '>'

/-- The control characters with an escape of their own. -/
def controlEscapes : List (Char × Char) :=
  [('a', '\x07'), ('f', '\x0C'), ('t', '\t'), ('n', '\n'), ('r', '\r'), ('v', '\x0B')]

/-- The condition that an escaped sign stands for. -/
def lookEscape (c : Char) : Reading Look := do
  drop 1
  match c with
  | 'A' => return .textStart
  | 'z' => return .textStop
  | 'b' => return .word (← boundaryEscape) (← wordSet)
  | 'B' => return .word .inside (← wordSet)
  | '<' => return .word .start (← wordSet)
  | '>' => return .word .stop (← wordSet)
  | _ => failure

/-- Reads an escape, the backslash being ahead. -/
def escape : Reading Escape := do
  drop 1
  let c ← peek
  match c with
  | 'x' => return .literal (← codeEscape 2)
  | 'u' => return .literal (← codeEscape 4)
  | 'U' => return .literal (← codeEscape 8)
  | 'p' => return .set (← propertyEscape false)
  | 'P' => return .set (← propertyEscape true)
  | _ =>
    if let some kind := CharClass.ofLetter? c then
      return .set (← classEscape kind c.isUpper)
    else if isEscapable c then
      drop 1
      return .literal c
    else if let some literal := controlEscapes.lookup c then
      drop 1
      return .literal literal
    else
      return .look (← lookEscape c)

end Reading

end ExprScript.Pattern
