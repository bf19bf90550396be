/-!
# Command line arguments

Words that start with `-` are options, except `-` itself and all words behind `--`. The value of an
option is attached to it or is the next word, which may then not look like an option. A request for
the version or for help counts as soon as it is met; what is wrong with the options as a whole shows
only at the end.
-/

namespace ExprScript.CommandLine

/-- What the arguments ask to evaluate, and how. -/
structure Invocation where
  expression : Option String := none
  script : Option String := none
  bindings : List String := []
  strict : Bool := false
deriving DecidableEq, Repr

inductive Request where
  | run (invocation : Invocation)
  | version
  | help
deriving DecidableEq, Repr

inductive ValuedOption where
  | expression | binding
deriving DecidableEq, Repr

/-- The arguments read so far, and whether they break a rule. -/
structure Found where
  invocation : Invocation := {}
  /-- An option was given twice or without its value. -/
  faulty : Bool := false
deriving DecidableEq, Repr

namespace Found

/-- Marks the arguments as faulty. -/
def fault (found : Found) : Found := { found with faulty := true }

/-- Adds the value of an option. Only bindings may be given more than once. -/
def addValue (found : Found) (value : String) : ValuedOption → Found
  | .binding =>
    { found with
      invocation := { found.invocation with bindings := found.invocation.bindings ++ [value] } }
  | .expression =>
    if found.invocation.expression.isSome then found.fault
    else { found with invocation := { found.invocation with expression := some value } }

/-- Adds the option for strict evaluation. -/
def addStrict (found : Found) : Found :=
  if found.invocation.strict then found.fault
  else { found with invocation := { found.invocation with strict := true } }

/-- Adds a script; there may be one. -/
def addScript? (found : Found) (name : String) : Option Found :=
  if found.invocation.script.isSome then none
  else some { found with invocation := { found.invocation with script := some name } }

/-- The request of all arguments. An expression and a script exclude each other. -/
def request? (found : Found) : Option Request :=
  if found.faulty || (found.invocation.expression.isSome && found.invocation.script.isSome) then none
  else some (.run found.invocation)

end Found

inductive Word where
  /-- `--`: only scripts follow. -/
  | separator
  | version
  | help
  | strict
  | valued (option : ValuedOption) (attached : Option String)
  | unknown
  | script (name : String)
deriving DecidableEq, Repr

/-- The text behind a first `=`, and the text before it. -/
def splitAtEquals (text : List Char) : List Char × Option (List Char) :=
  match text.dropWhile (· ≠ '=') with
  | [] => (text, none)
  | _ :: value => (text.takeWhile (· ≠ '='), some value)

/-- The word of an option with two dashes. -/
def longOption (text : List Char) : Word :=
  let (name, value) := splitAtEquals text
  match String.ofList name, value with
  | "expr", value => .valued .expression (value.map String.ofList)
  | "var", value => .valued .binding (value.map String.ofList)
  | "strict", none => .strict
  | "version", none => .version
  | "help", none => .help
  | _, _ => .unknown

/-- The word of an option with one dash. -/
def shortOption (text : List Char) : Word :=
  match text with
  | ['e'] => .valued .expression none
  | 'e' :: '=' :: value => .valued .expression (some (String.ofList value))
  | 'e' :: value => .valued .expression (some (String.ofList value))
  | 'V' :: _ => .version
  | 'h' :: _ => .help
  | _ => .unknown

/-- What a word is, unless it stands behind `--` or is the value of an option. -/
def Word.ofText (text : String) : Word :=
  match text.toList with
  | ['-', '-'] => .separator
  | ['-'] => .script text
  | '-' :: '-' :: option => longOption option
  | '-' :: option => shortOption option
  | _ => .script text

def addScripts (found : Found) (names : List String) : Option Request :=
  (names.foldlM Found.addScript? found).bind Found.request?

/-- Whether a word can be the value of the option before it. -/
def isValue (text : String) : Bool :=
  match Word.ofText text with
  | .script _ => true
  | _ => false

/-- Reads the words behind those found so far; there is no request when they are wrong. -/
def readWords (found : Found) : List String → Option Request
  | [] => found.request?
  | text :: rest =>
    match Word.ofText text, rest with
    | .separator, rest => addScripts found rest
    | .version, _ => some .version
    | .help, _ => some .help
    | .unknown, _ => none
    | .strict, rest => readWords found.addStrict rest
    | .valued option (some value), rest => readWords (found.addValue value option) rest
    | .valued option none, value :: others =>
      if isValue value then readWords (found.addValue value option) others
      else readWords found.fault (value :: others)
    | .valued _ none, [] => readWords found.fault []
    | .script name, rest => (found.addScript? name).bind fun found => readWords found rest

def readArguments (words : List String) : Option Request :=
  readWords {} words

end ExprScript.CommandLine
