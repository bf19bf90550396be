import ExprScript.Text.Case.Context
import ExprScript.Text.Case.Lower
import ExprScript.Text.Case.Upper

/-!
# Upper and lower case of texts

Case mapping is Unicode's full mapping: a character may become several (`ß` in upper case is `SS`),
and a capital sigma at the end of a word becomes a final sigma.
-/

namespace ExprScript.Text

/-- The upper case form of a character. -/
def upperForm (c : Char) : List Char :=
  if c.toNat < 0x80 then [c.toUpper] else caseForm upperRuns upperExpansions c

/-- The lower case form of a character outside a context. -/
def lowerForm (c : Char) : List Char :=
  if c.toNat < 0x80 then [c.toLower] else caseForm lowerRuns lowerExpansions c

def toUpper (text : List Char) : List Char :=
  text.flatMap upperForm

/-- Whether the first character that is not case-ignorable is cased. -/
def meetsCased (text : List Char) : Bool :=
  match text.dropWhile isCaseIgnorable with
  | [] => false
  | c :: _ => isCased c

/-- Lower case of the characters after `before`, which holds the earlier ones in reverse. -/
def toLowerAfter (before : List Char) : List Char → List Char
  | [] => []
  | c :: rest =>
    let form :=
      if c = 'Σ' then [if meetsCased before && !meetsCased rest then 'ς' else 'σ']
      else lowerForm c
    form ++ toLowerAfter (c :: before) rest

def toLower (text : List Char) : List Char :=
  toLowerAfter [] text

/-- The text with its first character in upper case. -/
def capitalize : List Char → List Char
  | [] => []
  | c :: rest => upperForm c ++ rest

end ExprScript.Text
