import ExprScript.CommandLine.Session

/-!
# The program

Reads files and lines, and writes what the session answers.
-/

namespace ExprScript.CommandLine

def put (written : Written) : IO Unit := do
  let output ← IO.getStdout
  output.putStr written.output
  output.flush
  (← IO.getStderr).putStr written.errors

/-- Writes a report and gives its code. -/
def conclude (report : ExitCode × Written) : IO UInt32 := do
  put report.2
  return report.1.code.toUInt32

/-- Answers the lines of the input as they come. -/
partial def converse (session : Session) : IO Unit := do
  put ⟨Session.promptText, ""⟩
  match lines (← (← IO.getStdin).getLine).toList with
  | [] => return
  | line :: _ =>
    let (written, session) := session.answer line
    put written
    converse session

/-- The text of a file, or why it cannot be read. -/
def readText (name : String) : IO (Except String String) := do
  try
    return .ok (← IO.FS.readFile name)
  catch
    | .noFileOrDirectory .. => return .error "No such file or directory (os error 2)"
    | e => return .error (toString e)

end ExprScript.CommandLine

open ExprScript.CommandLine in
def main (arguments : List String) : IO UInt32 := do
  match readArguments arguments with
  | some (.run invocation) =>
    match invocation.session, invocation.task with
    | .ok session, .prompt =>
      converse session
      return 0
    | .ok session, .file name =>
      match ← readText name with
      | .ok source => conclude (session.runSource source .script)
      | .error reason => conclude (unreadable name reason)
    | _, _ => conclude (run arguments (fun _ => .error "") "")
  | _ => conclude (run arguments (fun _ => .error "") "")
