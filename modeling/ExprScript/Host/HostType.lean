import ExprScript.Host.Member

/-!
# Host types

A host type is a table of methods and fields in the order of their declaration. Inheriting from a
type adds its members at that point, private ones included. Only public members can be used, whatever
the visibility of the type.
-/

namespace ExprScript

inductive Visibility where
  | visible | hidden
deriving DecidableEq, Repr

structure Method where
  name : String
  params : List ParamType
  visibility : Visibility
  body : Body

structure Field where
  name : String
  visibility : Visibility
  read : Body
  /-- How the field is written; read-only fields have no such body. -/
  write? : Option Body

namespace Field

/-- A public field over a slot that can only be read. -/
def readOnly (name slot : String) : Field := ⟨name, .visible, .slot slot, none⟩

/-- A public field over a slot that can be written. -/
def writable (name slot : String) : Field := ⟨name, .visible, .slot slot, some (.store slot 0)⟩

/-- A public field over a slot whose writes fail. -/
def failing (name slot message : String) : Field := ⟨name, .visible, .slot slot, some (.fail message)⟩

/-- A private field over a slot. -/
def hidden (name slot : String) : Field := ⟨name, .hidden, .slot slot, none⟩

end Field

structure HostType where
  name : String
  visibility : Visibility
  methods : List Method
  fields : List Field

namespace HostType

def named (name : String) (visibility : Visibility) : HostType := ⟨name, visibility, [], []⟩

/-- Declares one more method. -/
def addMethod (type : HostType) (method : Method) : HostType :=
  { type with methods := type.methods ++ [method] }

/-- Declares one more field. -/
def addField (type : HostType) (field : Field) : HostType :=
  { type with fields := type.fields ++ [field] }

/-- Inherits all members of another type at this point. -/
def inherit (type parent : HostType) : HostType :=
  { type with methods := type.methods ++ parent.methods, fields := type.fields ++ parent.fields }

/-- The methods that can be used. -/
def usableMethods (type : HostType) : List Method :=
  type.methods.filter (·.visibility = .visible)

/-- The fields that can be used. -/
def usableFields (type : HostType) : List Field :=
  type.fields.filter (·.visibility = .visible)

def text : HostType where
  name := "String"
  visibility := .visible
  methods := TextMember.all.map fun member => ⟨member.name, member.params, .visible, .text member⟩
  fields := []

end HostType

/-- What identifies a type: the type of strings, or the place of a declared type. -/
inductive TypeId where
  | text
  | declared (index : Nat)
deriving DecidableEq, Repr

/-- The identity of a receiver's type. -/
def Receiver.typeId : Receiver → TypeId
  | text _ => .text
  | object ref => .declared ref.typeIndex

abbrev TypeTable := List HostType

/-- The members of a receiver's type. -/
def TypeTable.typeOf? (types : TypeTable) : Receiver → Option HostType
  | .text _ => some HostType.text
  | .object ref => types[ref.typeIndex]?

end ExprScript
