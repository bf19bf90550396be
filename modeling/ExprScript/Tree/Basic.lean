import ExprScript.Source.Span
import ExprScript.Tree.Operator

/-!
# Syntax trees

Expressions, statements and whole units. Every node carries an annotation: the parser puts the span
of the node there. `map` changes the annotations alone, so two trees are the same up to spans when
forgetting the spans makes them equal.
-/

namespace ExprScript

/-- A name in the source: a variable or a member. -/
structure Name (σ : Type) where
  text : String
  span : σ
deriving DecidableEq, Repr

inductive Literal where
  | integer (value : Int64)
  | float (value : Float)
  | boolean (value : Bool)
  | string (value : String)
  | null
deriving DecidableEq

/-- The functions that are called without a target. -/
inductive Builtin where
  | size | empty
deriving DecidableEq, Repr

def Builtin.text : Builtin → String
  | size => "size"
  | empty => "empty"

inductive Expr (σ : Type) where
  | literal (span : σ) (value : Literal)
  | var (name : Name σ)
  | binary (span : σ) (op : BinaryOp) (lhs rhs : Expr σ)
  | unary (span : σ) (op : UnaryOp) (operand : Expr σ)
  | logical (span : σ) (op : LogicalOp) (lhs rhs : Expr σ)
  /-- `condition ? yes : no` -/
  | ternary (span : σ) (condition yes no : Expr σ)
  /-- `lhs ?: rhs` -/
  | elvis (span : σ) (lhs rhs : Expr σ)
  /-- `name = value` -/
  | assign (span : σ) (name : Name σ) (value : Expr σ)
  /-- `target.member` -/
  | get (span : σ) (target : Expr σ) (member : Name σ)
  /-- `target[key]` -/
  | index (span : σ) (target key : Expr σ)
  /-- `target.member = value` -/
  | assignMember (span : σ) (target : Expr σ) (member : Name σ) (value : Expr σ)
  /-- `target[key] = value` -/
  | assignIndex (span : σ) (target key value : Expr σ)
  /-- `target.method(arguments)` -/
  | call (span : σ) (target : Expr σ) (method : Name σ) (arguments : List (Expr σ))
  /-- `size(argument)` or `empty(argument)` -/
  | builtin (span : σ) (function : Builtin) (argument : Expr σ)

inductive Stmt (σ : Type) where
  | expr (span : σ) (body : Expr σ)
  | block (span : σ) (body : List (Stmt σ))
  | ifThen (span : σ) (condition : Expr σ) (yes : Stmt σ)
  | ifElse (span : σ) (condition : Expr σ) (yes no : Stmt σ)
  | loop (span : σ) (condition : Expr σ) (body : Stmt σ)
  | empty (span : σ)

/-- The two shapes of a unit: one expression, or a sequence of statements. -/
inductive Mode where
  | expression | script
deriving DecidableEq, Repr

inductive Tree (σ : Type) where
  | expression (body : Expr σ)
  | script (body : List (Stmt σ))

variable {σ τ : Type}

def Name.map (f : σ → τ) (name : Name σ) : Name τ :=
  ⟨name.text, f name.span⟩

namespace Expr

/-- The annotation of a node; a variable has the one of its name. -/
def span : Expr σ → σ
  | literal span _ | binary span .. | unary span .. | logical span .. | ternary span ..
  | elvis span .. | assign span .. | get span .. | index span .. | assignMember span ..
  | assignIndex span .. | call span .. | builtin span .. => span
  | var name => name.span

mutual

def map (f : σ → τ) : Expr σ → Expr τ
  | literal span value => literal (f span) value
  | var name => var (name.map f)
  | binary span op lhs rhs => binary (f span) op (map f lhs) (map f rhs)
  | unary span op operand => unary (f span) op (map f operand)
  | logical span op lhs rhs => logical (f span) op (map f lhs) (map f rhs)
  | ternary span condition yes no => ternary (f span) (map f condition) (map f yes) (map f no)
  | elvis span lhs rhs => elvis (f span) (map f lhs) (map f rhs)
  | assign span name value => assign (f span) (name.map f) (map f value)
  | get span target member => get (f span) (map f target) (member.map f)
  | index span target key => index (f span) (map f target) (map f key)
  | assignMember span target member value =>
    assignMember (f span) (map f target) (member.map f) (map f value)
  | assignIndex span target key value =>
    assignIndex (f span) (map f target) (map f key) (map f value)
  | call span target method arguments =>
    call (f span) (map f target) (method.map f) (mapAll f arguments)
  | builtin span function argument => builtin (f span) function (map f argument)

/-- The expressions of a list with other annotations. -/
def mapAll (f : σ → τ) : List (Expr σ) → List (Expr τ)
  | [] => []
  | e :: rest => map f e :: mapAll f rest

end

/-- The dotted name (`a.b.c`) of an expression that is a variable or a chain of members of one. -/
def dottedPath? : Expr σ → Option String
  | var name => some name.text
  | get _ target member => target.dottedPath?.map (· ++ "." ++ member.text)
  | _ => none

end Expr

namespace Stmt

def span : Stmt σ → σ
  | expr span _ | block span _ | ifThen span .. | ifElse span .. | loop span .. | empty span => span

mutual

def map (f : σ → τ) : Stmt σ → Stmt τ
  | expr span body => expr (f span) (body.map f)
  | block span body => block (f span) (mapAll f body)
  | ifThen span condition yes => ifThen (f span) (condition.map f) (map f yes)
  | ifElse span condition yes no => ifElse (f span) (condition.map f) (map f yes) (map f no)
  | loop span condition body => loop (f span) (condition.map f) (map f body)
  | empty span => empty (f span)

/-- The statements of a list with other annotations. -/
def mapAll (f : σ → τ) : List (Stmt σ) → List (Stmt τ)
  | [] => []
  | s :: rest => map f s :: mapAll f rest

end

end Stmt

namespace Tree

def mode : Tree σ → Mode
  | expression _ => .expression
  | script _ => .script

def map (f : σ → τ) : Tree σ → Tree τ
  | expression body => .expression (body.map f)
  | script body => .script (Stmt.mapAll f body)

end Tree

end ExprScript
