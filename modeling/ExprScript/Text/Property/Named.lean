import ExprScript.Text.Hexadecimal
import ExprScript.Text.Ranges

/-!
# Tables of named character sets

A table lists sets of characters with the names that each goes by. The ranges of a set are kept as
text: hexadecimal code points `a`, ranges `a-b`, and sequences `a~b` of every second code point,
separated by blanks or line ends and in ascending order.
-/

namespace ExprScript.Text

/-- The names of a set of characters, in lower case and without separators, and its ranges. -/
abbrev NamedRanges := List String × String

/-- The ranges that a table writes as one item. -/
def Ranges.ofItem (item : String) : Ranges :=
  let number (digits : String) := (hexNumber? digits.toList).getD 0
  match item.splitOn "-", item.splitOn "~" with
  | [first, last], _ => [(number first, number last)]
  | _, [first, last] =>
    (List.range ((number last - number first) / 2 + 1)).map fun i =>
      (number first + 2 * i, number first + 2 * i)
  | _, _ => [(number item, number item)]

/-- The ranges that a table writes as text. -/
def Ranges.ofText (text : String) : Ranges :=
  (text.splitOn "\n").flatMap fun line =>
    ((line.splitOn " ").filter (· ≠ "")).flatMap Ranges.ofItem

/-- The ranges that a table gives to a name. -/
def rangesNamed? (table : List NamedRanges) (name : String) : Option Ranges :=
  (table.find? (·.1.contains name)).map fun entry => Ranges.ofText entry.2

end ExprScript.Text
