import ExprScript.Parse.Statement

/-!
# The parser as a program

The parser once more, as routines that call each other with nothing to bound them: a loop is a
routine that calls itself again. A program looks at the token ahead, takes it, extends spans to the
last token taken and calls routines. `Runs` tells what it does step by step. A run is a finite
thing, so a program has one only if every loop and every call in it ends.
-/

namespace ExprScript

/-- The routines of the parser, with what they read. -/
inductive Routine : Type → Type where
  | expression (context : Precedence) : Routine (Expr Span)
  | operand : Routine (Expr Span)
  /-- The loop over what is joined to an operand. -/
  | joined (context : Precedence) (lhs : Expr Span) : Routine (Expr Span)
  | arguments (opened : Span) : Routine (List (Expr Span))
  /-- The loop over the arguments behind an argument. -/
  | moreArguments (opened : Span) : Routine (List (Expr Span))
  | statement : Routine (Stmt Span)
  /-- The loop over the statements of a block. -/
  | block (opened : Span) : Routine (List (Stmt Span))
  /-- The loop over the statements of a script. -/
  | script : Routine (List (Stmt Span))
  | unit (mode : Mode) : Routine (Tree Span)

/-- A part of a routine: what it does one after the other until it gives a value or stops with an
error. -/
inductive Program (α : Type) : Type 1 where
  | done (value : α)
  | fail (error : SyntaxError)
  /-- Looks at the token ahead. -/
  | look (next : SpannedToken → Program α)
  /-- Takes the token ahead. -/
  | take (next : Program α)
  /-- Finds the least span that covers a span and the last token taken. -/
  | extend (span : Span) (next : Span → Program α)
  | call {β : Type} (routine : Routine β) (next : β → Program α)

namespace Program

variable {α β : Type}

def andThen : Program α → (α → Program β) → Program β
  | done value, f => f value
  | fail error, _ => fail error
  | look next, f => look fun t => (next t).andThen f
  | take next, f => take (next.andThen f)
  | extend span next, f => extend span fun covered => (next covered).andThen f
  | call routine next, f => call routine fun value => (next value).andThen f

instance : Monad Program where
  pure := done
  bind := andThen

end Program

/-! ### The routines -/

namespace Program

/-- The token ahead. -/
def ahead : Program SpannedToken := look done

def pass : Program Unit := take (done ())

/-- The least span that covers a span and the last token taken. -/
def covering (span : Span) : Program Span := extend span done

/-- What a routine reads. -/
def read {α : Type} (routine : Routine α) : Program α := call routine done

/-- Takes a mark that has to follow a construct. -/
def expect (mark : Punctuation) (after : Construct) : Program Unit := do
  let t ← ahead
  if t.token = .punctuation mark then pass
  else fail ⟨t.span, .expectedAfter mark after t.token⟩

/-- Takes the mark that closes `opening`, or blames the opening one at the end of the input. -/
def close (opening : Punctuation) (after : Construct) (opened : Span) : Program Unit := do
  let t ← ahead
  if t.token = .endOfInput then fail ⟨opened, .unclosed opening⟩
  else expect (Stream.closing opening) after

def memberName : Program (Name Span) := do
  let t ← ahead
  match t.token with
  | .identifier name => do pass; return ⟨name, t.span⟩
  | .keyword word => do pass; return ⟨word.text, t.span⟩
  | found => fail ⟨t.span, .expectedMember found⟩

def unary (op : UnaryOp) (sign : Span) : Program (Expr Span) := do
  pass
  let e ← read (.expression .unary)
  let span ← covering sign
  return .unary span op e

def builtinCall (function : Builtin) (name : Span) : Program (Expr Span) := do
  pass
  let opening ← ahead
  expect .leftParen .functionName
  let found ← read (.arguments opening.span)
  let span ← covering name
  match found with
  | [argument] => return .builtin span function argument
  | _ => fail ⟨span, .arity function found.length⟩

def parens (opened : Span) : Program (Expr Span) := do
  pass
  let e ← read (.expression .lowest)
  close .leftParen .expression opened
  return e

/-- An operand that starts with a token. -/
def operand (t : SpannedToken) : Program (Expr Span) :=
  match t.token with
  | .sign .bang => unary .logicalNot t.span
  | .sign .minus => unary .negate t.span
  | .sign .tilde => unary .bitNot t.span
  | .keyword .sizeWord => builtinCall .size t.span
  | .keyword .emptyWord => builtinCall .empty t.span
  | .punctuation .leftParen => parens t.span
  | found =>
    match Stream.literal? t with
    | some e => do pass; return e
    | none => fail ⟨t.span, .expectedExpression found⟩

/-- What a connective with the given sign joins to an operand. -/
def join (connective : Connective) (lhs : Expr Span) (sign : Span) : Program (Expr Span) := do
  pass
  match connective with
  | .binary op => do
    let rhs ← read (.expression connective.precedence)
    let span ← covering lhs.span
    return .binary span op lhs rhs
  | .logical op => do
    let rhs ← read (.expression connective.precedence)
    let span ← covering lhs.span
    return .logical span op lhs rhs
  | .assignment => do
    let value ← read (.expression connective.precedence)
    let span ← covering lhs.span
    match Stream.assignTo? span value lhs with
    | some e => return e
    | none => fail ⟨sign, .invalidTarget⟩
  | .ternary => do
    let yes ← read (.expression .lowest)
    expect .colon .thenBranch
    let no ← read (.expression connective.precedence)
    let span ← covering lhs.span
    return .ternary span lhs yes no
  | .elvis => do
    let rhs ← read (.expression connective.precedence)
    let span ← covering lhs.span
    return .elvis span lhs rhs
  | .call => do
    let found ← read (.arguments sign)
    match lhs with
    | .get _ target method => do
      let span ← covering lhs.span
      return .call span target method found
    | _ => fail ⟨lhs.span, .notCallable⟩
  | .member => do
    let member ← memberName
    let span ← covering lhs.span
    return .get span lhs member
  | .index => do
    let key ← read (.expression .lowest)
    close .leftBracket .index sign
    let span ← covering lhs.span
    return .index span lhs key

/-- The parenthesized condition behind a keyword. -/
def condition (keyword : Construct) : Program (Expr Span) := do
  let opening ← ahead
  expect .leftParen keyword
  let e ← read (.expression .lowest)
  close .leftParen .condition opening.span
  return e

/-- An expression and the end of its statement, which starts with the given span. -/
def expressionStatement (start : Span) : Program (Stmt Span) := do
  let e ← read (.expression .lowest)
  let t ← ahead
  if t.token = .punctuation .semicolon then do
    pass
    let span ← covering start
    return .expr span e
  else if t.token = .punctuation .rightBrace ∨ t.token = .endOfInput then do
    let span ← covering start
    return .expr span e
  else fail ⟨t.span, .expectedAfter .semicolon .expression t.token⟩

def conditional (start : Span) : Program (Stmt Span) := do
  pass
  let test ← condition .ifWord
  let yes ← read .statement
  let t ← ahead
  if t.token = .keyword .elseWord then do
    pass
    let no ← read .statement
    let span ← covering start
    return .ifElse span test yes no
  else do
    let span ← covering start
    return .ifThen span test yes

def loop (start : Span) : Program (Stmt Span) := do
  pass
  let test ← condition .whileWord
  let body ← read .statement
  let span ← covering start
  return .loop span test body

def braces (opened : Span) : Program (Stmt Span) := do
  pass
  let body ← read (.block opened)
  let span ← covering opened
  return .block span body

/-- A statement that starts with a token. -/
def statement (t : SpannedToken) : Program (Stmt Span) :=
  match t.token with
  | .punctuation .semicolon => do
    pass
    let span ← covering t.span
    return .empty span
  | .keyword .ifWord => conditional t.span
  | .keyword .whileWord => loop t.span
  | .punctuation .leftBrace => braces t.span
  | _ => expressionStatement t.span

/-- An expression that was read; the input has to end here. -/
def finish (e : Expr Span) : Program (Tree Span) := do
  let t ← ahead
  if t.token = .endOfInput then return .expression e
  else fail ⟨t.span, .trailing t.token⟩

end Program

open Program in
/-- What a routine does. -/
def Routine.body {α : Type} : Routine α → Program α
  | .expression context => do
    let lhs ← read .operand
    read (.joined context lhs)
  | .operand => do
    let t ← ahead
    Program.operand t
  | .joined context lhs => do
    let t ← ahead
    match Connective.ofToken? t.token with
    | none => return lhs
    | some connective =>
      if connective.binds context then do
        let e ← join connective lhs t.span
        read (.joined context e)
      else return lhs
  | .arguments opened => do
    let t ← ahead
    if t.token = .punctuation .rightParen then do
      pass
      return []
    else do
      let first ← read (.expression .lowest)
      let others ← read (.moreArguments opened)
      match (first :: others)[maxArguments]? with
      | some extra => fail ⟨extra.span, .tooManyArguments⟩
      | none => return first :: others
  | .moreArguments opened => do
    let t ← ahead
    if t.token = .punctuation .rightParen then do
      pass
      return []
    else if t.token = .endOfInput then fail ⟨opened, .unclosed .leftParen⟩
    else if t.token = .punctuation .comma then do
      pass
      let argument ← read (.expression .lowest)
      let others ← read (.moreArguments opened)
      return argument :: others
    else fail ⟨t.span, .expectedAfter .rightParen .arguments t.token⟩
  | .statement => do
    let t ← ahead
    Program.statement t
  | .block opened => do
    let t ← ahead
    if t.token = .punctuation .rightBrace ∨ t.token = .endOfInput then do
      close .leftBrace .block opened
      return []
    else do
      let first ← read .statement
      let others ← read (.block opened)
      return first :: others
  | .script => do
    let t ← ahead
    if t.token = .endOfInput then return []
    else do
      let first ← read .statement
      let others ← read .script
      return first :: others
  | .unit .expression => do
    let e ← read (.expression .lowest)
    let t ← ahead
    if t.token = .punctuation .semicolon then do
      pass
      finish e
    else finish e
  | .unit .script => do
    let body ← read .script
    return .script body

/-! ### Runs -/

/-- What a run does; what a routine does is told with its call. -/
inductive Event : Type 1 where
  | look
  /-- The token ahead of a stream is taken. -/
  | take (s : Stream)
  /-- A span is extended to the last token taken before a stream. -/
  | extend (s : Stream)
  | call {α : Type} (routine : Routine α) (s : Stream) (events : List Event)

mutual

/-- How many steps an event has, those of the routine called included. -/
def Event.steps : Event → Nat
  | .look | .take _ | .extend _ => 1
  | .call _ _ events => stepsOfAll events + 1

def Event.stepsOfAll : List Event → Nat
  | [] => 0
  | e :: events => e.steps + stepsOfAll events

end

/-- `Runs p s events (outcome, r)`: the program started at the stream `s` does what the events say
and stops at the stream `r` with a value or an error. -/
inductive Runs : {α : Type} → Program α → Stream → List Event → Except SyntaxError α × Stream →
    Prop where
  | done {α : Type} {value : α} {s : Stream} : Runs (.done value) s [] (.ok value, s)
  | fail {α : Type} {error : SyntaxError} {s : Stream} :
    Runs (.fail error : Program α) s [] (.error error, s)
  | look {α : Type} {next : SpannedToken → Program α} {s : Stream} {events : List Event}
      {o : Except SyntaxError α × Stream} :
    Runs (next s.current) s events o → Runs (.look next) s (.look :: events) o
  | take {α : Type} {next : Program α} {s : Stream} {events : List Event}
      {o : Except SyntaxError α × Stream} :
    Runs next s.next events o → Runs (.take next) s (.take s :: events) o
  | extend {α : Type} {span : Span} {next : Span → Program α} {s : Stream} {events : List Event}
      {o : Except SyntaxError α × Stream} :
    Runs (next (span.extend s.last)) s events o →
    Runs (.extend span next) s (.extend s :: events) o
  | call {α β : Type} {routine : Routine β} {next : β → Program α} {value : β} {s m : Stream}
      {inner events : List Event} {o : Except SyntaxError α × Stream} :
    Runs routine.body s inner (.ok value, m) → Runs (next value) m events o →
    Runs (.call routine next) s (.call routine s inner :: events) o
  | stop {α β : Type} {routine : Routine β} {next : β → Program α} {error : SyntaxError}
      {s m : Stream} {inner : List Event} :
    Runs routine.body s inner (.error error, m) →
    Runs (.call routine next) s [.call routine s inner] (.error error, m)

/-- A program does one thing at most. -/
theorem Runs.unique {α : Type} {p : Program α} {s : Stream} {events events' : List Event}
    {o o' : Except SyntaxError α × Stream} (h : Runs p s events o) (h' : Runs p s events' o') :
    events = events' ∧ o = o' := by
  induction h generalizing events' with
  | done | fail =>
    cases h'
    exact ⟨rfl, rfl⟩
  | look _ ih =>
    cases h' with
    | look rest =>
      obtain ⟨rfl, rfl⟩ := ih rest
      exact ⟨rfl, rfl⟩
  | take _ ih =>
    cases h' with
    | take rest =>
      obtain ⟨rfl, rfl⟩ := ih rest
      exact ⟨rfl, rfl⟩
  | extend _ ih =>
    cases h' with
    | extend rest =>
      obtain ⟨rfl, rfl⟩ := ih rest
      exact ⟨rfl, rfl⟩
  | call _ _ ih ih' =>
    cases h' with
    | call called rest =>
      obtain ⟨rfl, same⟩ := ih called
      cases same
      obtain ⟨rfl, rfl⟩ := ih' rest
      exact ⟨rfl, rfl⟩
    | stop called => cases (ih called).2
  | stop _ ih =>
    cases h' with
    | call called rest => cases (ih called).2
    | stop called =>
      obtain ⟨rfl, same⟩ := ih called
      cases same
      exact ⟨rfl, rfl⟩

end ExprScript
