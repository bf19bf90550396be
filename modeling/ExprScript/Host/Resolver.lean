import ExprScript.Host.Handle

/-!
# Finding members

A property is read through a getter method, a field or, last, a method `get` that takes its name;
it is written likewise. A call is answered by a method of that name. Handles found are kept in a
cache, which changes nothing but whether the same handle is given again.
-/

namespace ExprScript

/-- How a method is chosen among those of one name and one number of parameters. -/
inductive OverloadPolicy where
  /-- One that is exact for all arguments, else the first that accepts them. -/
  | exactThenFirstCompatible
  /-- The first that accepts the arguments. -/
  | firstCompatible
deriving DecidableEq, Repr

/-- Why no member was found. -/
inductive ResolveError where
  | notFound (typeName member : String) (access : Access)
  | notIntrospectable (kind : ValueKind)
deriving DecidableEq, Repr

def ResolveError.text : ResolveError → String
  | notFound typeName member access => "no " ++ access.text ++ " `" ++ member ++ "` on " ++ typeName
  | notIntrospectable kind => kind.text ++ " values have no members"

namespace Method

/-- Whether every parameter is exact for its argument. -/
def isExact (m : Method) (kinds : List ValueKind) : Bool :=
  (m.params.zip kinds).all fun (p, k) => p.isExact k

/-- Whether every parameter accepts its argument. -/
def accepts (m : Method) (kinds : List ValueKind) : Bool :=
  (m.params.zip kinds).all fun (p, k) => p.accepts k

end Method

/-- The usable methods of a name and a number of parameters. -/
def HostType.overloads (type : HostType) (name : String) (arity : Nat) : List Method :=
  type.usableMethods.filter fun m => m.name == name && m.params.length == arity

/-- The method that a call with arguments of these kinds goes to. -/
def HostType.select? (type : HostType) (policy : OverloadPolicy) (name : String)
    (kinds : List ValueKind) : Option Method :=
  let candidates := type.overloads name kinds.length
  match policy with
  | .exactThenFirstCompatible =>
    (candidates.find? (·.isExact kinds)).or (candidates.find? (·.accepts kinds))
  | .firstCompatible => candidates.find? (·.accepts kinds)

/-- The name of the method that gets or sets a property: `get` and `name` make `getName`. -/
def accessorName (verb name : String) : String :=
  verb ++ String.ofList (Text.capitalize name.toList)

namespace HostType

/-- The getter or field that reads a property. -/
def findGet? (type : HostType) (policy : OverloadPolicy) (id : TypeId) (name : String) :
    Option Handle :=
  let getter (verb : String) :=
    (type.select? policy (accessorName verb name) []).map fun m => Handle.ofMethod id m .getter
  let field := (type.usableFields.find? (·.name == name)).map fun f =>
    ⟨f.name, .fieldGet, [], none, id, f.read, none⟩
  ((getter "get").or (getter "is")).or field

/-- The setter or field that writes a property. -/
def findSet? (type : HostType) (policy : OverloadPolicy) (id : TypeId) (name : String)
    (kind : ValueKind) : Option Handle :=
  let setter := (type.select? policy (accessorName "set" name) [kind]).map fun m =>
    Handle.ofMethod id m .setter
  let writable := type.usableFields.find? fun f => f.name == name && f.write?.isSome
  let field := (writable.bind (·.write?)).map fun write =>
    ⟨name, .fieldSet, [.any], none, id, write, none⟩
  setter.or field

def findCall? (type : HostType) (policy : OverloadPolicy) (id : TypeId) (name : String)
    (kinds : List ValueKind) : Option Handle :=
  (type.select? policy name kinds).map fun m => Handle.ofMethod id m .method

/-- The member that a use goes to, apart from methods that take the name of the property. -/
def find? (type : HostType) (policy : OverloadPolicy) (id : TypeId) (name : String) :
    Access → Option Handle
  | .get => type.findGet? policy id name
  | .set kind => type.findSet? policy id name kind
  | .call kinds => type.findCall? policy id name kinds

end HostType

/-- The handles kept so far. -/
abbrev Cache := Table MemberKey Handle

/-- A way to find members: given a value, a name, a use and the cache. -/
abbrev Resolver := Value → String → Access → Cache → Except ResolveError Handle × Cache

/-- How the resolver of a set of types works. -/
structure ResolverOptions where
  policy : OverloadPolicy
  caching : Bool
deriving DecidableEq, Repr

namespace ResolverOptions

/-- Keeps a handle under a key, when handles are kept. -/
def keep (options : ResolverOptions) (key : MemberKey) (h : Handle) (cache : Cache) :
    Handle × Cache :=
  if options.caching then
    let kept := { h with key? := some key }
    (kept, cache.insert key kept)
  else (h, cache)

/-- The handle kept under a key. -/
def kept? (options : ResolverOptions) (key : MemberKey) (cache : Cache) : Option Handle :=
  if options.caching then cache.get? key else none

/-- The method call by which a property is used last: its name, the kinds of its arguments, and the
kind of handle it makes. -/
def duckCall? : Access → Option (String × List ValueKind × HandleKind)
  | .get => some ("get", [.string], .duckGet)
  | .set kind => some ("set", [.string, kind], .duckSet)
  | .call _ => none

/-- The handle of a `get` or `set` method that takes the name of the property. The method itself is
kept as the answer to its own call, so that no entry is made for the property. -/
def resolveDuck (options : ResolverOptions) (type : HostType) (id : TypeId) (name : String)
    (access : Access) (cache : Cache) : Option Handle × Cache :=
  match duckCall? access with
  | none => (none, cache)
  | some (method, kinds, kind) =>
    let key : MemberKey := ⟨id, method, .call kinds⟩
    match options.kept? key cache with
    | some h => (some (h.bind name kind), cache)
    | none =>
      match type.findCall? options.policy id method kinds with
      | none => (none, cache)
      | some h =>
        let (kept, cache) := options.keep key h cache
        (some (kept.bind name kind), cache)

def resolveOn (options : ResolverOptions) (type : HostType) (id : TypeId) (name : String)
    (access : Access) (cache : Cache) : Except ResolveError Handle × Cache :=
  let key : MemberKey := ⟨id, name, access⟩
  match options.kept? key cache with
  | some h => (.ok h, cache)
  | none =>
    match type.find? options.policy id name access with
    | some h =>
      let (kept, cache) := options.keep key h cache
      (.ok kept, cache)
    | none =>
      match options.resolveDuck type id name access cache with
      | (some h, cache) => (.ok h, cache)
      | (none, cache) => (.error (.notFound type.name name access), cache)

/-- The resolver of a set of types. Values that are no receivers have no members. -/
def resolver (options : ResolverOptions) (types : TypeTable) : Resolver :=
  fun target name access cache =>
    match target.receiver?.bind fun r => (types.typeOf? r).map (r.typeId, ·) with
    | some (id, type) => options.resolveOn type id name access cache
    | none => (.error (.notIntrospectable target.kind), cache)

end ResolverOptions

/-- The resolver that asks again on the empty string when a value has no members. -/
def Resolver.orOnText (resolve : Resolver) : Resolver :=
  fun target name access cache =>
    match resolve target name access cache with
    | (.error (.notIntrospectable _), cache) => resolve (.string "") name access cache
    | answer => answer

end ExprScript
