import ExprScript.Eval.Expression

/-!
# Evaluating statements and units

The value of a sequence is that of its last statement which is not empty, and null without one. The
value of a loop is that of its last round.
-/

namespace ExprScript

/-- Repeats `body` as long as `condition` gives a true value, for a limited number of rounds; gives
the value of the last round, `last` before the first. -/
def Eval.repeatWhile (condition body : Eval Value) : Nat → Value → Eval Value
  | 0, _ => Eval.exhaust
  | rounds + 1, last => do
    let test ← condition
    if test.isTruthy then
      let value ← body
      repeatWhile condition body rounds value
    else return last

def Stmt.isEmpty {σ : Type} : Stmt σ → Bool
  | empty _ => true
  | _ => false

namespace Setting

mutual

def statement (setting : Setting) : Stmt Span → Eval Value
  | .expr _ body => setting.expression body
  | .block _ body => setting.statements body .null
  | .ifThen _ condition yes => do
    let test ← setting.expression condition
    if test.isTruthy then setting.statement yes else return .null
  | .ifElse _ condition yes no => do
    let test ← setting.expression condition
    if test.isTruthy then setting.statement yes else setting.statement no
  | .loop _ condition body =>
    Eval.repeatWhile (setting.expression condition) (setting.statement body) setting.rounds .null
  | .empty _ => return .null

/-- The value of a sequence of statements, `last` when it has none but empty ones. -/
def statements (setting : Setting) : List (Stmt Span) → Value → Eval Value
  | [], last => return last
  | s :: rest, last => do
    if s.isEmpty then setting.statements rest last
    else
      let value ← setting.statement s
      setting.statements rest value

end

def tree (setting : Setting) : Tree Span → Eval Value
  | .expression body => setting.expression body
  | .script body => setting.statements body .null

end Setting

end ExprScript
