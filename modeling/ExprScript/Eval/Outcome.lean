import ExprScript.Eval.Member

/-!
# Evaluations

An evaluation starts in a state and ends in one, with a value, with an error or with neither, when a
loop was cut off at its limit. The state is kept in every case: assignments and the effects of
members made before an error stay.
-/

namespace ExprScript

abbrev Context := Table String Value

/-- What an evaluation reads and changes. -/
structure State where
  context : Context
  world : World

inductive Outcome (α : Type) where
  | value (value : α)
  | error (error : EvalError)
  /-- A loop reached the limit of its rounds. -/
  | exhausted

def Eval (α : Type) : Type := State → Outcome α × State

namespace Eval

variable {α β : Type}

instance : Monad Eval where
  pure a s := (.value a, s)
  bind m f s := match m s with
    | (.value a, s) => f a s
    | (.error e, s) => (.error e, s)
    | (.exhausted, s) => (.exhausted, s)

/-- The outcome of a step that fails without knowing its place. -/
def blame (span : Span) : Except EvalCause α → Outcome α
  | .ok a => .value a
  | .error cause => .error ⟨span, cause⟩

def attempt (span : Span) (result : Except EvalCause α) : Eval α :=
  fun s => (blame span result, s)

/-- A step on what members can change. -/
def attemptOn (span : Span) (step : World → Except EvalCause α × World) : Eval α :=
  fun s =>
    let (result, world) := step s.world
    (blame span result, { s with world })

def context : Eval Context := fun s => (.value s.context, s)

def bindVariable (name : String) (v : Value) : Eval Unit :=
  fun s => (.value (), { s with context := s.context.insert name v })

/-- Stops a loop at its limit. -/
def exhaust : Eval α := fun s => (.exhausted, s)

end Eval

end ExprScript
