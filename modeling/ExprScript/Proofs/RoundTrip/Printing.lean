import ExprScript.Proofs.Grammar.Basic
import ExprScript.Proofs.Token.Spaced

/-!
# Printing trees as sources

A tree is printed as the source that says it in the plainest way: every compound expression stands
in parentheses, and the lexemes have one space between them. How numbers with a point are written is
left open.

A tree is regular when its parts are as those of a source can be.
-/

namespace ExprScript

/-- Lexemes in parentheses. -/
def grouped (inside : List (List Char)) : List (List Char) :=
  ['('] :: inside ++ [[')']]

section Printing

variable (floats : Float → List Char)

def Literal.lexeme : Literal → List Char
  | integer value => Integer.digits value.toInt
  | float value => floats value
  | boolean true => "true".toList
  | boolean false => "false".toList
  | string value => quoted value
  | null => "null".toList

namespace Expr

mutual

/-- The lexemes of an expression. -/
def lexemes : Expr Unit → List (List Char)
  | literal _ value => [value.lexeme floats]
  | var name => [name.text.toList]
  | binary _ op lhs rhs =>
    grouped (lexemes lhs ++ op.symbol.toList :: lexemes rhs)
  | unary _ op operand => grouped (op.symbol.toList :: lexemes operand)
  | logical _ op lhs rhs =>
    grouped (lexemes lhs ++ op.symbol.toList :: lexemes rhs)
  | ternary _ condition yes no =>
    grouped (lexemes condition ++
      ['?'] :: lexemes yes ++ [':'] :: lexemes no)
  | elvis _ lhs rhs => grouped (lexemes lhs ++ ['?', ':'] :: lexemes rhs)
  | assign _ name value => grouped (name.text.toList :: ['='] :: lexemes value)
  | get _ target member => grouped (lexemes target ++ [['.'], member.text.toList])
  | index _ target key =>
    grouped (lexemes target ++ ['['] :: lexemes key ++ [[']']])
  | assignMember _ target member value =>
    grouped (lexemes target ++ [['.'], member.text.toList] ++
      ['='] :: lexemes value)
  | assignIndex _ target key value =>
    grouped (lexemes target ++ ['['] :: lexemes key ++ [[']']] ++
      ['='] :: lexemes value)
  | call _ target method arguments =>
    grouped (lexemes target ++ [['.'], method.text.toList] ++
      ['('] :: argumentLexemes arguments ++ [[')']])
  | builtin _ function argument =>
    grouped (function.text.toList :: ['('] :: lexemes argument ++ [[')']])

/-- The lexemes of arguments with commas between them. -/
def argumentLexemes : List (Expr Unit) → List (List Char)
  | [] => []
  | e :: rest => lexemes e ++ laterLexemes rest

/-- The lexemes of the arguments behind the first, each with a comma in front. -/
def laterLexemes : List (Expr Unit) → List (List Char)
  | [] => []
  | e :: rest => [','] :: lexemes e ++ laterLexemes rest

end

end Expr

namespace Stmt

mutual

/-- The lexemes of a statement. -/
def lexemes : Stmt Unit → List (List Char)
  | expr _ body => body.lexemes floats ++ [[';']]
  | block _ body => ['{'] :: sequenceLexemes body ++ [['}']]
  | ifThen _ condition yes =>
    "if".toList :: ['('] :: condition.lexemes floats ++ [')'] :: lexemes yes
  | ifElse _ condition yes no =>
    "if".toList :: ['('] :: condition.lexemes floats ++ [')'] :: lexemes yes ++
      "else".toList :: lexemes no
  | loop _ condition body =>
    "while".toList :: ['('] :: condition.lexemes floats ++ [')'] :: lexemes body
  | empty _ => [[';']]

/-- The lexemes of statements in sequence. -/
def sequenceLexemes : List (Stmt Unit) → List (List Char)
  | [] => []
  | s :: rest => lexemes s ++ sequenceLexemes rest

end

end Stmt

namespace Tree

def lexemes : Tree Unit → List (List Char)
  | expression body => body.lexemes floats
  | script body => Stmt.sequenceLexemes floats body

/-- The source of a unit. -/
def print (t : Tree Unit) : List Char :=
  separated (t.lexemes floats)

end Tree

end Printing

variable (number : Float → Prop)

/-- The literals that occur, of the numbers with a point the given ones. -/
def Literal.Regular : Literal → Prop
  | integer value => 0 ≤ value.toInt
  | float value => number value
  | _ => True

/-- The expressions that occur. That a built-in function has one argument is part of its node. -/
inductive Expr.Regular : Expr Unit → Prop where
  | literal {value} : value.Regular number → Regular (.literal () value)
  | var {text} : IsVariable text → Regular (.var ⟨text, ()⟩)
  | binary {op lhs rhs} : Regular lhs → Regular rhs → Regular (.binary () op lhs rhs)
  | unary {op operand} : Regular operand → Regular (.unary () op operand)
  | logical {op lhs rhs} : Regular lhs → Regular rhs → Regular (.logical () op lhs rhs)
  | ternary {condition yes no} :
    Regular condition → Regular yes → Regular no → Regular (.ternary () condition yes no)
  | elvis {lhs rhs} : Regular lhs → Regular rhs → Regular (.elvis () lhs rhs)
  | assign {text value} :
    IsVariable text → Regular value → Regular (.assign () ⟨text, ()⟩ value)
  | get {target text} : Regular target → IsMember text → Regular (.get () target ⟨text, ()⟩)
  | index {target key} : Regular target → Regular key → Regular (.index () target key)
  | assignMember {target text value} :
    Regular target → IsMember text → Regular value →
    Regular (.assignMember () target ⟨text, ()⟩ value)
  | assignIndex {target key value} :
    Regular target → Regular key → Regular value → Regular (.assignIndex () target key value)
  | call {target text arguments} :
    Regular target → IsMember text → (∀ a ∈ arguments, Regular a) →
    arguments.length ≤ maxArguments → Regular (.call () target ⟨text, ()⟩ arguments)
  | builtin {function argument} : Regular argument → Regular (.builtin () function argument)

inductive Stmt.Regular : Stmt Unit → Prop where
  | expr {body} : body.Regular number → Regular (.expr () body)
  | block {body} : (∀ s ∈ body, Regular s) → Regular (.block () body)
  | ifThen {condition yes} :
    condition.Regular number → Regular yes → Regular (.ifThen () condition yes)
  /-- An `else` would belong to a conditional without one at the end of `yes`. -/
  | ifElse {condition yes no} :
    condition.Regular number → Regular yes → yes.takesElse = false → Regular no →
    Regular (.ifElse () condition yes no)
  | loop {condition body} :
    condition.Regular number → Regular body → Regular (.loop () condition body)
  | empty : Regular (.empty ())

def Tree.Regular : Tree Unit → Prop
  | expression body => body.Regular number
  | script body => ∀ s ∈ body, s.Regular number

end ExprScript
