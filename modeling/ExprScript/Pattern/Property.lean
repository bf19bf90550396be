import ExprScript.Pattern.CharSet
import ExprScript.Text.Alphabetic
import ExprScript.Text.Case.Context
import ExprScript.Text.Property.Binary
import ExprScript.Text.Property.Category
import ExprScript.Text.Property.Script
import ExprScript.Text.Property.ScriptExtension

/-!
# Properties of characters by name

The sets that a pattern writes as `\p`: a general category, a script or a binary property of the
Unicode character database. Names are compared loosely: case, blanks, underscores, hyphens and an
`is` in front do not matter.
-/

namespace ExprScript.Pattern

open Text

/-- The form in which names of properties are compared. The name `isc` keeps its `is`, since it
does not stand for the category `c`. -/
def looseName (name : List Char) : String :=
  let kept (text : List Char) :=
    (text.filter fun c => c.toNat < 0x80 && c != ' ' && c != '_' && c != '-').map Char.toLower
  match name with
  | i :: s :: rest =>
    if i.toLower = 'i' ∧ s.toLower = 's' then
      if kept rest = ['c'] then "isc" else String.ofList (kept rest)
    else String.ofList (kept name)
  | _ => String.ofList (kept name)

/-- The general categories that are unions of others, each with its names and its parts. -/
def categoryGroups : List (List String × List String) := [
  (["l", "letter"], ["lu", "ll", "lt", "lm", "lo"]),
  (["lc", "casedletter"], ["lu", "ll", "lt"]),
  (["m", "mark", "combiningmark"], ["mn", "mc", "me"]),
  (["n", "number"], ["nd", "nl", "no"]),
  (["p", "punctuation", "punct"], ["pc", "pd", "ps", "pe", "pi", "pf", "po"]),
  (["s", "symbol"], ["sm", "sc", "sk", "so"]),
  (["z", "separator"], ["zs", "zl", "zp"])]

/-- The characters in one of the general categories that are given by ranges. -/
def assigned : CharSet :=
  .unions (categories.map fun entry => .ranges (Ranges.ofText entry.2))

/-- The characters of one of several general categories. -/
def categoriesNamed (names : List String) : CharSet :=
  .unions (names.map fun name => .ranges ((rangesNamed? categories name).getD []))

def category? (name : String) : Option CharSet :=
  match name with
  | "any" => some .all
  | "ascii" => some .ascii
  | "assigned" => some assigned
  | "cn" | "unassigned" => some (.compl assigned)
  | "c" | "other" => some (.union (categoriesNamed ["cc", "cf", "co"]) (.compl assigned))
  | _ =>
    match categoryGroups.find? (·.1.contains name) with
    | some group => some (categoriesNamed group.2)
    | none => (rangesNamed? categories name).map .ranges

def script? (name : String) : Option CharSet :=
  (rangesNamed? scripts name).map .ranges

/-- The characters that a script uses, shared ones included. -/
def scriptExtension? (name : String) : Option CharSet := do
  let (names, ranges) ← scripts.find? (·.1.contains name)
  let changes := names.findSome? (rangesNamed? scriptExtensionChanges)
  return .symmDiff (.ranges (Ranges.ofText ranges)) (.ranges (changes.getD []))

/-- The characters that have a binary property. -/
def binaryProperty? (name : String) : Option CharSet :=
  match name with
  | "alpha" | "alphabetic" =>
    some (.ranges ([(0x41, 0x5A), (0x61, 0x7A)] ++ alphabeticRanges))
  | "cased" => some (.ranges ([(0x41, 0x5A), (0x61, 0x7A)] ++ casedRanges))
  | "ci" | "caseignorable" =>
    some (.ranges ([0x27, 0x2E, 0x3A, 0x5E, 0x60].map (fun c => (c, c)) ++ caseIgnorableRanges))
  | _ => (rangesNamed? binaryProperties name).map .ranges

/-- The set named by `\p` alone: a binary property, else a general category, else a script. -/
def property? (name : List Char) : Option CharSet :=
  let name := looseName name
  binaryProperty? name <|> category? name <|> script? name

/-- The set of the characters for which a property has a value. -/
def propertyValue? (name value : List Char) : Option CharSet :=
  match looseName name with
  | "gc" | "generalcategory" => category? (looseName value)
  | "sc" | "script" => script? (looseName value)
  | "scx" | "scriptextensions" => scriptExtension? (looseName value)
  | _ => none

end ExprScript.Pattern
