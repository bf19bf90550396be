import ExprScript.Eval.Statement
import ExprScript.Parse.Statement
import ExprScript.Token.Tokenize
import ExprScript.Tree.Printer

/-!
# The engine

A source is compiled once into a unit, which can be evaluated any number of times. An engine holds
the options and the resolver shared by its evaluations.
-/

namespace ExprScript

/-- Why a source was not compiled. -/
inductive CompileError where
  | lex (error : LexError)
  | parse (error : SyntaxError)
deriving DecidableEq

/-- Why a source gave no value. -/
inductive RunError where
  | compile (error : CompileError)
  | evaluation (error : EvalError)
deriving DecidableEq

/-- The message of an error for a reader of the source. -/
def CompileError.render (source : List Char) : CompileError → String
  | lex e => "lex error at " ++ e.text
  | parse e => e.render source

@[inherit_doc CompileError.render]
def RunError.render (source : List Char) : RunError → String
  | compile e => e.render source
  | evaluation e => "evaluation error at " ++ e.text

structure CompiledUnit where
  source : List Char
  tree : Tree Span

def compileTree (source : List Char) (mode : Mode) : Except CompileError (Tree Span) :=
  match tokenize source with
  | .error e => .error (.lex e)
  | .ok tokens => (parse tokens mode).mapError .parse

def compile (source : List Char) (mode : Mode) : Except CompileError CompiledUnit :=
  (compileTree source mode).map (⟨source, ·⟩)

structure Options where
  /-- Whether unbound variables and null operands are errors. -/
  strict : Bool := false
  policy : OverloadPolicy := .exactThenFirstCompatible
  /-- Whether resolved handles are kept for reuse. -/
  caching : Bool := true
deriving DecidableEq, Repr

/-- Options, a resolver, and a limit to the rounds of every loop. -/
structure Engine where
  options : Options
  resolver : Resolver
  rounds : Nat

namespace Engine

/-- The engine of a set of host types with a resolver of its own. -/
def ofTypes (options : Options) (types : TypeTable) (rounds : Nat) : Engine where
  options
  resolver := ResolverOptions.resolver ⟨options.policy, options.caching⟩ types
  rounds

/-- What the evaluations of an engine depend on. -/
def setting (engine : Engine) : Setting where
  strict := engine.options.strict
  resolve := engine.resolver
  rounds := engine.rounds

def evaluate (engine : Engine) (unit : CompiledUnit) : Eval Value :=
  engine.setting.tree unit.tree

end Engine

end ExprScript
