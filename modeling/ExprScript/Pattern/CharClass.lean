import ExprScript.Pattern.CharSet
import ExprScript.Text.Alphabetic
import ExprScript.Text.Property.Category

/-!
# Classes of characters

The classes that a pattern writes as a letter, `\d`, `\s` and `\w`, and those that it writes by a
name in brackets, such as `[:alpha:]`.
-/

namespace ExprScript.Pattern

open Text

/-- The classes that are written as a letter. -/
inductive CharClass where
  | digit
  | space
  | word
deriving DecidableEq, Repr

namespace CharClass

/-- The characters of a class among all characters. -/
def unicodeSet : CharClass → CharSet
  | digit => .ranges ((rangesNamed? categories "nd").getD [])
  | space => .ranges [
      (0x09, 0x0D), (0x20, 0x20), (0x85, 0x85), (0xA0, 0xA0), (0x1680, 0x1680), (0x2000, 0x200A),
      (0x2028, 0x2029), (0x202F, 0x202F), (0x205F, 0x205F), (0x3000, 0x3000)]
  | word => .unions (
      .ranges [(0x41, 0x5A), (0x61, 0x7A)] :: .ranges alphabeticRanges ::
      .ranges [(0x200C, 0x200D)] ::
      ["mn", "mc", "me", "nd", "pc"].map fun name =>
        .ranges ((rangesNamed? categories name).getD []))

/-- The characters of a class among those of ASCII. -/
def asciiSet : CharClass → CharSet
  | digit => .ranges [(0x30, 0x39)]
  | space => .ranges [(0x09, 0x0D), (0x20, 0x20)]
  | word => .ranges [(0x30, 0x39), (0x41, 0x5A), (0x5F, 0x5F), (0x61, 0x7A)]

/-- The class that a letter stands for, in either case. -/
def ofLetter? (c : Char) : Option CharClass :=
  match c.toLower with
  | 'd' => some digit
  | 's' => some space
  | 'w' => some word
  | _ => none

end CharClass

/-- The classes that are written by a name in brackets; they have characters of ASCII only. -/
def bracketClasses : List (String × Ranges) := [
  ("alnum", [(0x30, 0x39), (0x41, 0x5A), (0x61, 0x7A)]),
  ("alpha", [(0x41, 0x5A), (0x61, 0x7A)]),
  ("ascii", [(0, 0x7F)]),
  ("blank", [(0x09, 0x09), (0x20, 0x20)]),
  ("cntrl", [(0, 0x1F), (0x7F, 0x7F)]),
  ("digit", [(0x30, 0x39)]),
  ("graph", [(0x21, 0x7E)]),
  ("lower", [(0x61, 0x7A)]),
  ("print", [(0x20, 0x7E)]),
  ("punct", [(0x21, 0x2F), (0x3A, 0x40), (0x5B, 0x60), (0x7B, 0x7E)]),
  ("space", [(0x09, 0x0D), (0x20, 0x20)]),
  ("upper", [(0x41, 0x5A)]),
  ("word", [(0x30, 0x39), (0x41, 0x5A), (0x5F, 0x5F), (0x61, 0x7A)]),
  ("xdigit", [(0x30, 0x39), (0x41, 0x46), (0x61, 0x66)])]

end ExprScript.Pattern
