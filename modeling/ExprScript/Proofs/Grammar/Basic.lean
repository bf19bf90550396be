import ExprScript.Parse.Error
import ExprScript.Proofs.Grammar.Shape

/-!
# The grammar of the language

The units of the language as words over tokens. The grammar knows nothing of how a unit is parsed:
it has a level of expressions for each precedence, from assignments down to chains of members, and
says of every production which tokens it takes.

A derivation is recorded by its tree and by the parentheses in it. These are the only part of an
expression that leaves no trace in the tree, so they are counted in the annotations.
-/

namespace ExprScript

def BinaryOp.sign : BinaryOp → Sign
  | add => .plus
  | subtract => .minus
  | multiply => .asterisk
  | divide => .slash
  | modulo => .percent
  | equal => .doubleEq
  | notEqual => .bangEq
  | greater => .greater
  | greaterEq => .greaterEq
  | less => .less
  | lessEq => .lessEq
  | matching => .eqTilde
  | notMatching => .bangTilde
  | bitAnd => .ampersand
  | bitOr => .pipe
  | bitXor => .caret

def LogicalOp.sign : LogicalOp → Sign
  | and => .doubleAmpersand
  | or => .doublePipe

def UnaryOp.sign : UnaryOp → Sign
  | negate => .minus
  | logicalNot => .bang
  | bitNot => .tilde

def Builtin.keyword : Builtin → Keyword
  | size => .sizeWord
  | empty => .emptyWord

/-- The token by which a literal is written. -/
def Literal.token : Literal → Token
  | integer value => .integer value
  | float value => .float value
  | boolean true => .keyword .trueWord
  | boolean false => .keyword .falseWord
  | string value => .string value
  | null => .keyword .nullWord

/-- The name of a member that a token can be: any name, and any keyword. -/
def Token.memberText? : Token → Option String
  | identifier name => some name
  | keyword word => some word.text
  | _ => none

namespace Grammar

/-- The levels of expressions, from loose to tight. -/
inductive Level where
  | assignment | choice | disjunction | conjunction | bitOr | bitXor | bitAnd
  | equality | relation | sum | product | signed | chain
deriving DecidableEq, Repr

namespace Level

/-- The place of a level in the order. -/
def rank : Level → Nat
  | assignment => 0
  | choice => 1
  | disjunction => 2
  | conjunction => 3
  | bitOr => 4
  | bitXor => 5
  | bitAnd => 6
  | equality => 7
  | relation => 8
  | sum => 9
  | product => 10
  | signed => 11
  | chain => 12

/-- The next tighter level. -/
def tighter : Level → Level
  | assignment => choice
  | choice => disjunction
  | disjunction => conjunction
  | conjunction => bitOr
  | bitOr => bitXor
  | bitXor => bitAnd
  | bitAnd => equality
  | equality => relation
  | relation => sum
  | sum => product
  | product => signed
  | signed | chain => chain

/-- Looser levels come before tighter ones. -/
instance : LE Level := ⟨fun a b => a.rank ≤ b.rank⟩

instance (a b : Level) : Decidable (a ≤ b) := inferInstanceAs (Decidable (a.rank ≤ b.rank))

/-- The level of the expressions that an operator makes. -/
def ofBinary : BinaryOp → Level
  | .bitOr => bitOr
  | .bitXor => bitXor
  | .bitAnd => bitAnd
  | .equal | .notEqual | .matching | .notMatching => equality
  | .greater | .greaterEq | .less | .lessEq => relation
  | .add | .subtract => sum
  | .multiply | .divide | .modulo => product

@[inherit_doc ofBinary]
def ofLogical : LogicalOp → Level
  | .or => disjunction
  | .and => conjunction

end Level

/-- How many pairs of parentheses stand around a node, and how many stand around the member or the
element that an assignment writes or a call calls, which is no node of its own. -/
structure Parens where
  around : Nat := 0
  target : Nat := 0
deriving DecidableEq, Repr

/-- No parentheses. -/
def bare : Parens := {}

/-- One more pair of parentheses. -/
def Parens.succ (p : Parens) : Parens := { p with around := p.around + 1 }

abbrev mark (m : Punctuation) : Token := .punctuation m

/-- Words with commas between them. -/
def commaSeparated : List (List Token) → List Token
  | [] => []
  | word :: rest => word ++ rest.flatMap (mark .comma :: ·)

/-- An argument of a call: its words and its tree. -/
structure Argument where
  words : List Token
  tree : Expr Parens

/-- The words of the expressions of a level, and their trees. An expression of a level is also one
of every looser level. -/
inductive Phrase : Level → List Token → Expr Parens → Prop where
  | literal {level} (value : Literal) :
    Phrase level [value.token] (.literal bare value)
  | var {level} (text : String) :
    Phrase level [.identifier text] (.var ⟨text, bare⟩)
  /-- Parentheses leave no trace in the tree but the count of them. -/
  | parens {level word e} :
    Phrase .assignment word e →
    Phrase level (mark .leftParen :: word ++ [mark .rightParen]) (e.mapRoot .succ)
  | builtin {level word e} (function : Builtin) :
    Phrase .assignment word e →
    Phrase level (.keyword function.keyword :: mark .leftParen :: word ++ [mark .rightParen])
      (.builtin bare function e)
  | get {level word target token text} :
    Phrase .chain word target → token.memberText? = some text →
    Phrase level (word ++ [mark .dot, token]) (.get bare target ⟨text, bare⟩)
  | index {level word target inside key} :
    Phrase .chain word target → Phrase .assignment inside key →
    Phrase level (word ++ mark .leftBracket :: inside ++ [mark .rightBracket])
      (.index bare target key)
  /-- Only a member is called. -/
  | call {level word p target method} (arguments : List Argument) :
    Phrase .chain word (.get p target method) →
    (∀ a ∈ arguments, Phrase .assignment a.words a.tree) → arguments.length ≤ maxArguments →
    Phrase level
      (word ++ mark .leftParen :: commaSeparated (arguments.map Argument.words) ++
        [mark .rightParen])
      (.call ⟨0, p.around⟩ target method (arguments.map Argument.tree))
  | unary {level word e} (op : UnaryOp) :
    level ≤ .signed → Phrase .signed word e →
    Phrase level (.sign op.sign :: word) (.unary bare op e)
  /-- The operators on values group to the left. -/
  | binary {level left lhs right rhs} (op : BinaryOp) :
    level ≤ .ofBinary op →
    Phrase (.ofBinary op) left lhs → Phrase (Level.ofBinary op).tighter right rhs →
    Phrase level (left ++ .sign op.sign :: right) (.binary bare op lhs rhs)
  | logical {level left lhs right rhs} (op : LogicalOp) :
    level ≤ .ofLogical op →
    Phrase (.ofLogical op) left lhs → Phrase (Level.ofLogical op).tighter right rhs →
    Phrase level (left ++ .sign op.sign :: right) (.logical bare op lhs rhs)
  /-- Conditionals and assignments group to the right. -/
  | ternary {level test condition left yes right no} :
    level ≤ .choice →
    Phrase .disjunction test condition → Phrase .assignment left yes → Phrase .choice right no →
    Phrase level (test ++ .sign .question :: left ++ mark .colon :: right)
      (.ternary bare condition yes no)
  | elvis {level left lhs right rhs} :
    level ≤ .choice → Phrase .disjunction left lhs → Phrase .choice right rhs →
    Phrase level (left ++ .sign .questionColon :: right) (.elvis bare lhs rhs)
  | assign {level left name right value} :
    level ≤ .assignment → Phrase .choice left (.var name) → Phrase .assignment right value →
    Phrase level (left ++ .sign .equals :: right) (.assign bare name value)
  | assignMember {level left p target member right value} :
    level ≤ .assignment →
    Phrase .choice left (.get p target member) → Phrase .assignment right value →
    Phrase level (left ++ .sign .equals :: right) (.assignMember ⟨0, p.around⟩ target member value)
  | assignIndex {level left p target key right value} :
    level ≤ .assignment →
    Phrase .choice left (.index p target key) → Phrase .assignment right value →
    Phrase level (left ++ .sign .equals :: right) (.assignIndex ⟨0, p.around⟩ target key value)

end Grammar

/-- Whether a statement ends with a conditional that could still take an `else`. -/
def Stmt.takesElse {σ : Type} : Stmt σ → Bool
  | ifThen .. => true
  | ifElse _ _ _ no => no.takesElse
  | loop _ _ body => body.takesElse
  | _ => false

namespace Grammar

/-- A statement of a sequence: its words, its tree and whether it is ended, that is, whether more
statements may follow. -/
structure Part where
  ended : Bool
  words : List Token
  tree : Stmt Parens

/-- The words of statements and their trees. A statement that is not ended lacks the semicolon of
its last expression and has to stand before a closing brace or the end. -/
inductive Sentence : Bool → List Token → Stmt Parens → Prop where
  | expr {word e} :
    Phrase .assignment word e → Sentence true (word ++ [mark .semicolon]) (.expr bare e)
  | unended {word e} :
    Phrase .assignment word e → Sentence false word (.expr bare e)
  | block (parts : List Part) :
    (∀ p ∈ parts, Sentence p.ended p.words p.tree) → parts.Pairwise (fun p _ => p.ended) →
    Sentence true (mark .leftBrace :: parts.flatMap Part.words ++ [mark .rightBrace])
      (.block bare (parts.map Part.tree))
  | ifThen {ended test condition body yes} :
    Phrase .assignment test condition → Sentence ended body yes →
    Sentence ended
      (.keyword .ifWord :: mark .leftParen :: test ++ mark .rightParen :: body)
      (.ifThen bare condition yes)
  /-- An `else` belongs to the nearest conditional, so what stands before it takes no `else`. -/
  | ifElse {ended test condition body yes other no} :
    Phrase .assignment test condition → Sentence true body yes → yes.takesElse = false →
    Sentence ended other no →
    Sentence ended
      (.keyword .ifWord :: mark .leftParen :: test ++ mark .rightParen :: body ++
        .keyword .elseWord :: other)
      (.ifElse bare condition yes no)
  | loop {ended test condition inside body} :
    Phrase .assignment test condition → Sentence ended inside body →
    Sentence ended
      (.keyword .whileWord :: mark .leftParen :: test ++ mark .rightParen :: inside)
      (.loop bare condition body)
  | empty : Sentence true [mark .semicolon] (.empty bare)

/-- The words of units and their trees. -/
inductive Whole : Mode → List Token → Tree Parens → Prop where
  | expression {word e} :
    Phrase .assignment word e → Whole .expression word (.expression e)
  | endedExpression {word e} :
    Phrase .assignment word e → Whole .expression (word ++ [mark .semicolon]) (.expression e)
  | script (parts : List Part) :
    (∀ p ∈ parts, Sentence p.ended p.words p.tree) → parts.Pairwise (fun p _ => p.ended) →
    Whole .script (parts.flatMap Part.words) (.script (parts.map Part.tree))

end Grammar

end ExprScript
