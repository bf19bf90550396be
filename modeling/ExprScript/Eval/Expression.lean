import ExprScript.Eval.Arithmetic
import ExprScript.Eval.Outcome

/-!
# Evaluating expressions

Operands are evaluated from left to right. An error is blamed on the innermost expression whose own
step failed, and a failed call on the name of its method.
-/

namespace ExprScript

/-- What evaluation depends on besides the state. -/
structure Setting where
  /-- Whether unbound variables and null operands are errors. -/
  strict : Bool
  resolve : Resolver
  /-- How many rounds a loop may take. -/
  rounds : Nat

def Literal.eval : Literal → Value
  | integer n => .integer n
  | float x => .float x
  | boolean b => .boolean b
  | string s => .string s
  | null => .null

/-- The variable that a chain of members starts with. -/
def Expr.pathRoot? {σ : Type} : Expr σ → Option String
  | var name => some name.text
  | get _ target _ => target.pathRoot?
  | _ => none

/-- The value bound to the dotted name of an expression as a whole. It is looked for only when the
first part of the name is unbound. -/
def Context.dotted? (context : Context) (e : Expr Span) : Option Value :=
  match e.pathRoot?, e.dottedPath? with
  | some root, some path => if context.contains root then none else context.get? path
  | _, _ => none

namespace Setting

/-- The value of a variable; an unbound one is null unless evaluation is strict. -/
def variableValue (setting : Setting) (context : Context) (name : String) :
    Except EvalCause Value :=
  match context.get? name with
  | some value => .ok value
  | none => if setting.strict then .error (.undefinedVariable name) else .ok .null

def read (setting : Setting) (span : Span) (target : Value) (name : String) : Eval Value :=
  Eval.attemptOn span (setting.resolve.useMember target name .get [])

/-- Writes a property and gives the value written. -/
def write (setting : Setting) (span : Span) (target : Value) (name : String) (value : Value) :
    Eval Value := do
  let _ ← Eval.attemptOn span (setting.resolve.useMember target name (.set value.kind) [value])
  return value

mutual

def expression (setting : Setting) : Expr Span → Eval Value
  | .literal _ value => return value.eval
  | .var name => do
    Eval.attempt name.span (setting.variableValue (← Eval.context) name.text)
  | .binary span op lhs rhs => do
    let left ← setting.expression lhs
    let right ← setting.expression rhs
    Eval.attempt span (op.apply setting.strict left right)
  | .unary span op operand => do
    let value ← setting.expression operand
    Eval.attempt span (op.apply setting.strict value)
  | .logical _ op lhs rhs => do
    let left := (← setting.expression lhs).isTruthy
    match op, left with
    | .and, false => return .boolean false
    | .or, true => return .boolean true
    | _, _ =>
      let right ← setting.expression rhs
      return .boolean right.isTruthy
  | .ternary _ condition yes no => do
    let test ← setting.expression condition
    if test.isTruthy then setting.expression yes else setting.expression no
  | .elvis _ lhs rhs => do
    let value ← setting.expression lhs
    if value.isTruthy then return value else setting.expression rhs
  | .assign _ name value => do
    let value ← setting.expression value
    Eval.bindVariable name.text value
    return value
  | .get span target member => do
    match (← Eval.context).dotted? (.get span target member) with
    | some value => return value
    | none =>
      let object ← setting.expression target
      setting.read span object member.text
  | .index span target key => do
    let object ← setting.expression target
    let name ← setting.expression key
    setting.read span object name.render
  | .assignMember span target member value => do
    let object ← setting.expression target
    let value ← setting.expression value
    setting.write span object member.text value
  | .assignIndex span target key value => do
    let object ← setting.expression target
    let name ← setting.expression key
    let value ← setting.expression value
    setting.write span object name.render value
  | .call _ target method arguments => do
    let object ← setting.expression target
    let values ← setting.expressions arguments
    Eval.attemptOn method.span
      (setting.resolve.useMember object method.text (.ofArguments values) values)
  | .builtin span function argument => do
    let value ← setting.expression argument
    Eval.attemptOn span (setting.resolve.applyBuiltin function value)

/-- The values of expressions, from left to right. -/
def expressions (setting : Setting) : List (Expr Span) → Eval (List Value)
  | [] => return []
  | e :: rest => do
    let value ← setting.expression e
    let values ← setting.expressions rest
    return value :: values

end

end Setting

end ExprScript
