import ExprScript.Host.Parameter
import ExprScript.Text.Blank
import ExprScript.Text.Case
import ExprScript.Text.Search

/-!
# Members of strings

The methods that every string has. Strings are indexed by character.
-/

namespace ExprScript

/-- Why the body of a member failed. -/
inductive HostError where
  /-- The receiver has another type than the one the member was resolved on. -/
  | wrongReceiver
  | badArgument (index : Nat)
  | failed (message : String)
deriving DecidableEq, Repr

def HostError.text : HostError → String
  | wrongReceiver => "receiver has another type"
  | badArgument index => "argument " ++ toString index ++ " has the wrong type"
  | failed message => message

/-- The string argument at an index; `none` when it is null. -/
def stringArgument (arguments : List Value) (index : Nat) : Except HostError (Option String) :=
  match arguments[index]? with
  | some (.string s) => .ok (some s)
  | some .null => .ok none
  | _ => .error (.badArgument index)

/-- The integer argument at an index. -/
def integerArgument (arguments : List Value) (index : Nat) : Except HostError Int64 :=
  match arguments[index]? with
  | some (.integer n) => .ok n
  | _ => .error (.badArgument index)

/-- The characters of the string argument at an index, which may not be null. -/
def textArgument (arguments : List Value) (index : Nat) : Except HostError (List Char) := do
  match ← stringArgument arguments index with
  | some s => .ok s.toList
  | none => .error (.badArgument index)

inductive TextMember where
  | length | isEmpty | toUpperCase | toLowerCase | trim | contains | startsWith | endsWith | indexOf
  | charAt | substringFrom | substring | replace | concat | equals
deriving DecidableEq, Repr

namespace TextMember

def name : TextMember → String
  | length => "length"
  | isEmpty => "isEmpty"
  | toUpperCase => "toUpperCase"
  | toLowerCase => "toLowerCase"
  | trim => "trim"
  | contains => "contains"
  | startsWith => "startsWith"
  | endsWith => "endsWith"
  | indexOf => "indexOf"
  | charAt => "charAt"
  | substringFrom | substring => "substring"
  | replace => "replace"
  | concat => "concat"
  | equals => "equals"

def params : TextMember → List ParamType
  | length | isEmpty | toUpperCase | toLowerCase | trim => []
  | contains | startsWith | endsWith | indexOf | concat => [.string]
  | charAt | substringFrom => [.integer]
  | substring => [.integer, .integer]
  | replace => [.string, .string]
  | equals => [.any]

/-- All methods, in the order of their declaration. -/
def all : List TextMember :=
  [length, isEmpty, toUpperCase, toLowerCase, trim, contains, startsWith, endsWith, indexOf, charAt,
   substringFrom, substring, replace, concat, equals]

def value (text : List Char) : Value := .string (String.ofList text)

def count (n : Nat) : Value := .integer (Int64.ofNat n)

def outOfRange (index : Int64) (text : List Char) : HostError :=
  .failed ("index " ++ Integer.text index ++ " out of range for string of length " ++
    toString text.length)

/-- The characters from `start` up to `stop`. -/
def slice (text : List Char) (start stop : Int64) : Except HostError Value :=
  let first := start.toInt
  let last := stop.toInt
  if first < 0 ∨ last < first ∨ (text.length : Int) < last then
    .error (outOfRange (if first < 0 then start else stop) text)
  else .ok (value ((text.drop first.toNat).take (last - first).toNat))

def character (text : List Char) (index : Int64) : Except HostError Value :=
  if index.toInt < 0 then .error (outOfRange index text)
  else match text[index.toInt.toNat]? with
    | some c => .ok (value [c])
    | none => .error (outOfRange index text)

def run (member : TextMember) (text : List Char) (arguments : List Value) :
    Except HostError Value := do
  match member with
  | length => return count text.length
  | isEmpty => return .boolean text.isEmpty
  | toUpperCase => return value (Text.toUpper text)
  | toLowerCase => return value (Text.toLower text)
  | trim => return value (Text.trim text)
  | contains => return .boolean (Text.find? (← textArgument arguments 0) text).isSome
  | startsWith => return .boolean ((← textArgument arguments 0).isPrefixOf text)
  | endsWith => return .boolean ((← textArgument arguments 0).isSuffixOf text)
  | indexOf =>
    match Text.find? (← textArgument arguments 0) text with
    | some index => return count index
    | none => return .integer (-1)
  | charAt => character text (← integerArgument arguments 0)
  | substringFrom => slice text (← integerArgument arguments 0) (Int64.ofNat text.length)
  | substring => slice text (← integerArgument arguments 0) (← integerArgument arguments 1)
  | replace =>
    let part ← textArgument arguments 0
    let new ← textArgument arguments 1
    return value (Text.replace part new text)
  | concat => return value (text ++ (← textArgument arguments 0))
  | equals => return .boolean (arguments[0]? == some (value text))

end TextMember

end ExprScript
