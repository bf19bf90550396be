/-!
# Searching a text

Where one text occurs in another, and replacing every occurrence. Occurrences are found from left
to right and do not overlap; the empty text occurs before every character and at the end.
-/

namespace ExprScript.Text

/-- The number of characters before the first occurrence of `part`. -/
def find? (part : List Char) : List Char → Option Nat
  | [] => if part.isEmpty then some 0 else none
  | c :: rest =>
    if part.isPrefixOf (c :: rest) then some 0 else (find? part rest).map (· + 1)

/-- Every occurrence of a nonempty `part` replaced by `new`; `skip` characters of an occurrence
already replaced are still to be passed over. -/
def replaceFrom (part new : List Char) : Nat → List Char → List Char
  | _, [] => []
  | skip + 1, _ :: rest => replaceFrom part new skip rest
  | 0, c :: rest =>
    if part.isPrefixOf (c :: rest) then new ++ replaceFrom part new (part.length - 1) rest
    else c :: replaceFrom part new 0 rest

/-- Every occurrence of `part` replaced by `new`. -/
def replace (part new text : List Char) : List Char :=
  if part.isEmpty then new ++ text.flatMap (fun c => c :: new) else replaceFrom part new 0 text

end ExprScript.Text
