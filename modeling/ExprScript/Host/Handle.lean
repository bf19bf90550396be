import ExprScript.Host.Access
import ExprScript.Host.HostType

/-!
# Member handles

A handle is a member found for some use, ready to be run. A handle that is kept for reuse knows the
key under which it is kept; two uses give the very same handle when they find the same kept one.
-/

namespace ExprScript

/-- By which rule a member was found. -/
inductive HandleKind where
  | getter | setter | method | fieldGet | fieldSet | duckGet | duckSet
deriving DecidableEq, Repr

def HandleKind.text : HandleKind → String
  | getter => "Getter"
  | setter => "Setter"
  | method => "Method"
  | fieldGet => "FieldGet"
  | fieldSet => "FieldSet"
  | duckGet => "DuckGet"
  | duckSet => "DuckSet"

/-- What a kept handle was found for. -/
structure MemberKey where
  typeId : TypeId
  name : String
  access : Access
deriving DecidableEq, Repr

structure Handle where
  /-- The name of the method or field. -/
  member : String
  kind : HandleKind
  params : List ParamType
  /-- A name that is passed in front of the arguments. -/
  boundName? : Option String
  /-- The type the member was found on; receivers of other types are refused. -/
  owner : TypeId
  body : Body
  /-- The key under which the handle is kept, if it is. -/
  key? : Option MemberKey

def ParamType.listText (params : List ParamType) : String :=
  "[" ++ ", ".intercalate (params.map text) ++ "]"

namespace Handle

/-- The text of a handle: kind, member and parameters. -/
def text (h : Handle) : String :=
  "<" ++ h.kind.text ++ " " ++ h.member ++ ParamType.listText h.params ++ ">"

def ofMethod (owner : TypeId) (method : Method) (kind : HandleKind) : Handle :=
  ⟨method.name, kind, method.params, none, owner, method.body, none⟩

/-- A fresh handle that passes `name` in front of the arguments. -/
def bind (h : Handle) (name : String) (kind : HandleKind) : Handle :=
  { h with boundName? := some name, kind, key? := none }

/-- Whether two handles are one kept handle. -/
def same (a b : Handle) : Bool :=
  a.key?.isSome && a.key? == b.key?

/-- The arguments as the body gets them: the bound name in front, each coerced to its parameter.
Without parameters all are passed on; else those without a parameter are dropped. -/
def passed (h : Handle) (arguments : List Value) : List Value :=
  let all := match h.boundName? with
    | some name => .string name :: arguments
    | none => arguments
  if h.params.isEmpty then all else List.zipWith ParamType.coerce h.params all

def invoke (h : Handle) (receiver : Receiver) (arguments : List Value) (heap : Heap) :
    Except HostError Value × Heap :=
  if receiver.typeId = h.owner then h.body.run receiver (h.passed arguments) heap
  else (.error .wrongReceiver, heap)

end Handle

end ExprScript
