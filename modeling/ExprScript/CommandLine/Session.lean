import ExprScript.CommandLine.Arguments
import ExprScript.Engine
import ExprScript.Text.Blank

/-!
# Sessions on the command line

A session binds the variables given, and then evaluates an expression, a script file, or the lines
typed at a prompt, all in one context.
-/

namespace ExprScript.CommandLine

inductive ExitCode where
  | success
  /-- The arguments are wrong. -/
  | badArguments
  /-- A binding has no `=`, or a script cannot be read. -/
  | usage
  /-- A source cannot be compiled. -/
  | badSource
  /-- An evaluation failed. -/
  | failure
deriving DecidableEq, Repr

def ExitCode.code : ExitCode → Nat
  | success => 0
  | badArguments => 2
  | usage => 64
  | badSource => 65
  | failure => 70

/-- What was written so far to the two outputs. -/
structure Written where
  output : String := ""
  errors : String := ""
deriving DecidableEq, Repr

namespace Written

def append (first second : Written) : Written :=
  ⟨first.output ++ second.output, first.errors ++ second.errors⟩

def line (text : String) : Written := ⟨text ++ "\n", ""⟩

def errorLine (text : String) : Written := ⟨"", text ++ "\n"⟩

end Written

/-- An engine without host types and the state of its evaluations. -/
structure Session where
  engine : Engine
  state : State

namespace Session

/-- How many rounds a loop may take: more than can be waited for. -/
def rounds : Nat := 4611686018427387904

def start (strict : Bool) : Session where
  engine := .ofTypes { strict } [] rounds
  state := ⟨.empty, .empty, .empty⟩

/-- Evaluates a source; an error is written and ends with a code. -/
def evaluate (session : Session) (source : String) (mode : Mode) :
    Except (ExitCode × Written) Value × Session :=
  let text := source.toList
  let stop (code : ExitCode) (e : RunError) : Except (ExitCode × Written) Value :=
    .error (code, .errorLine (e.render text))
  match compile text mode with
  | .error e => (stop .badSource (.compile e), session)
  | .ok unit =>
    match session.engine.evaluate unit session.state with
    | (.value value, state) => (.ok value, { session with state })
    | (.error e, state) => (stop .failure (.evaluation e), { session with state })
    | (.exhausted, state) => (.error (.failure, {}), { session with state })

/-- Evaluates `name=expression` and binds the name. -/
def bindVariable (session : Session) (binding : String) :
    Except (ExitCode × Written) Unit × Session :=
  match splitAtEquals binding.toList with
  | (_, none) =>
    (.error (.usage, .errorLine ("Usage: --var name=expression, got `" ++ binding ++ "`")), session)
  | (name, some source) =>
    match session.evaluate (String.ofList source) .expression with
    | (.error stop, session) => (.error stop, session)
    | (.ok value, session) =>
      let bound := String.ofList (Text.trim name)
      let context := session.state.context.insert bound value
      (.ok (), { session with state := { session.state with context } })

/-- Evaluates bindings in order, up to the first that fails. -/
def bindVariables (session : Session) : List String → Except (ExitCode × Written) Session
  | [] => .ok session
  | binding :: rest =>
    match session.bindVariable binding with
    | (.error stop, _) => .error stop
    | (.ok (), session) => session.bindVariables rest

/-- Evaluates one source and writes its value. -/
def runSource (session : Session) (source : String) (mode : Mode) : ExitCode × Written :=
  match session.evaluate source mode with
  | (.ok value, _) => (.success, .line value.text)
  | (.error stop, _) => stop

/-- Answers a line typed at the prompt. Errors are written and the session goes on; blank lines are
passed over. -/
def answer (session : Session) (line : String) : Written × Session :=
  if (Text.trim line.toList).isEmpty then ({}, session)
  else match session.evaluate line .script with
    | (.ok value, session) => (.line value.text, session)
    | (.error (_, written), session) => (written, session)

/-- What is shown when a line is awaited. -/
def promptText : String := "> "

/-- Answers lines in order, with a prompt before each and one before the end of the input. -/
def answerAll (session : Session) : List String → Written
  | [] => ⟨promptText, ""⟩
  | line :: rest =>
    let (written, session) := session.answer line
    (Written.append ⟨promptText, ""⟩ written).append (session.answerAll rest)

end Session

/-- A line held in reverse, without the return that its line end began with. -/
def finishLine : List Char → String
  | '\r' :: line => String.ofList line.reverse
  | line => String.ofList line.reverse

/-- The lines of a text behind the part of a line held in reverse. -/
def linesAfter (current : List Char) : List Char → List String
  | [] => if current.isEmpty then [] else [String.ofList current.reverse]
  | '\n' :: rest => finishLine current :: linesAfter [] rest
  | c :: rest => linesAfter (c :: current) rest

/-- The lines of a text, without their line ends. What follows the last line end is a line unless it
is empty. -/
def lines (text : List Char) : List String :=
  linesAfter [] text

/-- The text that `--version` writes. -/
def versionText : String := "rjexl 0.1.0"

/-- The text that `--help` writes. -/
def helpText : String := "\n".intercalate
  [versionText, "Evaluate expressions and scripts", "", "USAGE:", "    rjexl [OPTIONS] [SCRIPT]", "",
   "ARGS:", "    <SCRIPT>    Script file to run. Starts a prompt when omitted", "", "OPTIONS:",
   "    -e, --expr <EXPRESSION>    Evaluate a single expression instead of a script",
   "    -h, --help                 Print help information",
   "        --strict               Treat undefined variables and null operands as errors",
   "    -V, --version              Print version information",
   "        --var <VARS>           Bind a variable before evaluation, as `name=expression`"]

/-- What is to be evaluated once the variables are bound. -/
inductive Task where
  | source (text : String) (mode : Mode)
  | file (name : String)
  | prompt

def Invocation.task (invocation : Invocation) : Task :=
  match invocation.expression, invocation.script with
  | some expression, _ => .source expression .expression
  | none, some name => .file name
  | none, none => .prompt

/-- The session of an invocation, with its variables bound. -/
def Invocation.session (invocation : Invocation) : Except (ExitCode × Written) Session :=
  (Session.start invocation.strict).bindVariables invocation.bindings

/-- The report of a script that cannot be read. -/
def unreadable (name reason : String) : ExitCode × Written :=
  (.usage, .errorLine ("Cannot read " ++ name ++ ": " ++ reason))

/-- Runs the program on its arguments, on files that are given by name with their texts or with the
reason why they cannot be read, and on the text of its input. -/
def run (arguments : List String) (readFile : String → Except String String) (input : String) :
    ExitCode × Written :=
  match readArguments arguments with
  | none => (.badArguments, .errorLine "error: invalid arguments, try --help")
  | some .version => (.success, .line versionText)
  | some .help => (.success, .line helpText)
  | some (.run invocation) =>
    match invocation.session with
    | .error stop => stop
    | .ok session =>
      match invocation.task with
      | .source text mode => session.runSource text mode
      | .file name =>
        match readFile name with
        | .ok source => session.runSource source .script
        | .error reason => unreadable name reason
      | .prompt => (.success, session.answerAll (lines input.toList))

end ExprScript.CommandLine
