import ExprScript.Eval.Error
import ExprScript.Host.Resolver
import ExprScript.Tree.Basic

/-!
# Using members

Members are found by a resolver and run on their target. Finding one may change the cache and running
one may change the slots of objects, also when it fails.
-/

namespace ExprScript

/-- What members can change. -/
structure World where
  heap : Heap
  cache : Cache

def Handle.runOn (h : Handle) (target : Value) (arguments : List Value) (w : World) :
    Except EvalCause Value × World :=
  match target.receiver? with
  | none => (.error (.type (.noMembers target.typeName)), w)
  | some receiver =>
    let (result, heap) := h.invoke receiver arguments w.heap
    (result.mapError (.invocation h.member), { w with heap })

def ResolveError.cause (name : String) (access : Access) : ResolveError → EvalCause
  | notFound typeName member access => .memberNotFound typeName member access
  | notIntrospectable kind => .memberNotFound kind.text name access

namespace Resolver

/-- Uses a member of a target; null has none, whatever the resolver says. -/
def useMember (resolve : Resolver) (target : Value) (name : String) (access : Access)
    (arguments : List Value) (w : World) : Except EvalCause Value × World :=
  if target.isNull then (.error (.nullAccess name), w)
  else match resolve target name access w.cache with
    | (.error e, cache) => (.error (e.cause name access), { w with cache })
    | (.ok h, cache) => h.runOn target arguments { w with cache }

/-- Calls a method without arguments, if there is one. -/
def callIfPresent (resolve : Resolver) (target : Value) (name : String) (w : World) :
    Except EvalCause (Option Value) × World :=
  match resolve target name (.call []) w.cache with
  | (.error _, cache) => (.ok none, { w with cache })
  | (.ok h, cache) =>
    let (result, w) := h.runOn target [] { w with cache }
    (result.map some, w)

/-- The number of characters of a string, zero for null, and what an object's `size` gives. -/
def sizeOf (resolve : Resolver) (argument : Value) (w : World) : Except EvalCause Value × World :=
  match argument with
  | .null => (.ok (.integer 0), w)
  | .string s => (.ok (.integer (Int64.ofNat s.toList.length)), w)
  | .object _ =>
    match resolve.callIfPresent argument "size" w with
    | (.ok none, w) => (.error (.type (.noSize argument.typeName)), w)
    | (.ok (some size), w) => (.ok size, w)
    | (.error e, w) => (.error e, w)
  | other => (.error (.type (.noSize other.typeName)), w)

/-- Whether a value is empty: null, the empty string, and an object whose `isEmpty` says so or, where
it has none, whose `size` is zero. -/
def isEmpty (resolve : Resolver) (argument : Value) (w : World) : Except EvalCause Bool × World :=
  match argument with
  | .null => (.ok true, w)
  | .string s => (.ok s.toList.isEmpty, w)
  | .object _ =>
    match resolve.callIfPresent argument "isEmpty" w with
    | (.error e, w) => (.error e, w)
    | (.ok (some result), w) => (.ok result.isTruthy, w)
    | (.ok none, w) =>
      let (size, w) := resolve.callIfPresent argument "size" w
      (size.map fun found => found.any (·.same (.integer 0)), w)
  | _ => (.ok false, w)

def applyBuiltin (resolve : Resolver) (function : Builtin) (argument : Value) (w : World) :
    Except EvalCause Value × World :=
  match function with
  | .size => resolve.sizeOf argument w
  | .empty =>
    let (result, w) := resolve.isEmpty argument w
    (result.map .boolean, w)

end Resolver

end ExprScript
