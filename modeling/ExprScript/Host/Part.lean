import ExprScript.Host.HostType

/-!
# Parts of objects

The objects of a type may have a part of another type and use its members as their own. A member that
is taken over in this way does on an object what it does on the part of the object; from level to
level, parts of parts are reached.
-/

namespace ExprScript

variable (part : ObjectRef → ObjectRef)

/-- Does on an object what a body does on its part. -/
def Body.onPart (body : Body) : Body :=
  .effect fun ref arguments heap => body.runOnObject (part ref) arguments heap

def Method.onPart (m : Method) : Method :=
  { m with body := m.body.onPart part }

def Field.onPart (f : Field) : Field :=
  { f with read := f.read.onPart part, write? := f.write?.map (·.onPart part) }

namespace HostType

/-- The members of a type, to be used on objects that have a part of the type. -/
def onPart (type : HostType) : HostType :=
  { type with methods := type.methods.map (·.onPart part), fields := type.fields.map (·.onPart part) }

/-- Declares more members. -/
def declare (type : HostType) (methods : List Method) (fields : List Field) : HostType :=
  { type with methods := type.methods ++ methods, fields := type.fields ++ fields }

end HostType

end ExprScript
