import ExprScript.Host.TextMember
import ExprScript.Table

/-!
# Members of host objects

What the methods and fields of host objects do. An object keeps its state in named slots; the body
of a member reads its arguments, reads and writes slots of its receiver, and gives a value or fails.
-/

namespace ExprScript

abbrev Slots := Table String Value

/-- The slots of all objects, by identity. -/
abbrev Heap := Table String Slots

namespace Heap

/-- The value in a slot; a slot never written holds null. -/
def read (heap : Heap) (object slot : String) : Value :=
  ((heap.get? object).bind (·.get? slot)).getD .null

def write (heap : Heap) (object slot : String) (value : Value) : Heap :=
  heap.insert object (((heap.get? object).getD .empty).insert slot value)

end Heap

/-- The value whose members can be used: a text or an object. -/
inductive Receiver where
  | text (text : String)
  | object (ref : ObjectRef)
deriving DecidableEq

/-- The receiver that a value is, if it has members at all. -/
def Value.receiver? : Value → Option Receiver
  | string s => some (.text s)
  | object ref => some (.object ref)
  | _ => none

/-- What a member does. Arguments are counted from 0, and an absent argument is null. -/
inductive Body where
  | const (value : Value)
  | slot (name : String)
  /-- Writes an argument into a slot and gives null. -/
  | store (name : String) (index : Nat)
  /-- Adds one to a slot and gives the sum; a slot without an integer counts from zero. -/
  | increment (name : String)
  | argument (index : Nat)
  /-- The kinds and texts of all arguments. -/
  | listArguments
  /-- The argument, which has to be a string or null. -/
  | stringArgument (index : Nat)
  /-- The argument, which has to be an integer. -/
  | integerArgument (index : Nat)
  /-- The slot named by the first argument. -/
  | namedSlot
  /-- Writes the second argument into the slot named by the first, and gives null. -/
  | storeNamed
  | fail (message : String)
  | reject (index : Nat)
  | text (member : TextMember)
  /-- Whatever else a function of the host does to an object and to the slots of all objects. -/
  | effect (run : ObjectRef → List Value → Heap → Except HostError Value × Heap)

namespace Body

/-- The name of a slot given by the first argument; null names the empty slot name. -/
def slotName (arguments : List Value) : Except HostError String :=
  (ExprScript.stringArgument arguments 0).map (·.getD "")

def describe (arguments : List Value) : String :=
  ",".intercalate (arguments.map fun v => v.kind.text ++ ":" ++ v.text)

def runOnObject (body : Body) (ref : ObjectRef) (arguments : List Value) (heap : Heap) :
    Except HostError Value × Heap :=
  match body with
  | const value => (.ok value, heap)
  | slot name => (.ok (heap.read ref.id name), heap)
  | store name index => (.ok .null, heap.write ref.id name (arguments[index]?.getD .null))
  | increment name =>
    let next := .integer (((heap.read ref.id name).asInteger?.getD 0) + 1)
    (.ok next, heap.write ref.id name next)
  | argument index => (.ok (arguments[index]?.getD .null), heap)
  | listArguments => (.ok (.string (describe arguments)), heap)
  | stringArgument index =>
    ((ExprScript.stringArgument arguments index).map fun s => s.elim .null .string, heap)
  | integerArgument index => ((ExprScript.integerArgument arguments index).map .integer, heap)
  | namedSlot => ((slotName arguments).map (heap.read ref.id), heap)
  | storeNamed =>
    match slotName arguments with
    | .error e => (.error e, heap)
    | .ok name => (.ok .null, heap.write ref.id name (arguments[1]?.getD .null))
  | fail message => (.error (.failed message), heap)
  | reject index => (.error (.badArgument index), heap)
  | text _ => (.error .wrongReceiver, heap)
  | effect run => run ref arguments heap

def run (body : Body) (receiver : Receiver) (arguments : List Value) (heap : Heap) :
    Except HostError Value × Heap :=
  match receiver, body with
  | .object ref, body => body.runOnObject ref arguments heap
  | .text s, text member => (member.run s.toList arguments, heap)
  | .text _, _ => (.error .wrongReceiver, heap)

end Body

end ExprScript
