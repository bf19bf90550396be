import ExprScript.Proofs.Host.Transparency

/-!
# Private members cannot be observed

Types are declared step by step, and inheriting takes over private members too. Two families of
types that differ in private members alone, wherever they are declared, are the same family once
these members are left out. Resolving sees of a type only what is left then, so no client can tell
two such families apart.
-/

namespace ExprScript

/-- How a host type is declared, one step behind another. -/
inductive Declaration where
  | named (name : String) (visibility : Visibility)
  | method (before : Declaration) (m : Method)
  | field (before : Declaration) (f : Field)
  /-- Takes over all members of a type declared elsewhere. -/
  | inherits (before parent : Declaration)

namespace Declaration

/-- The type that is declared. -/
def type : Declaration → HostType
  | named name visibility => .named name visibility
  | method before m => before.type.addMethod m
  | field before f => before.type.addField f
  | inherits before parent => before.type.inherit parent.type

/-- The declaration without private members, its own or those of ancestors, of a public type. -/
def exposed : Declaration → Declaration
  | named name _ => named name .visible
  | method before m => if m.visibility = .visible then method before.exposed m else before.exposed
  | field before f => if f.visibility = .visible then field before.exposed f else before.exposed
  | inherits before parent => inherits before.exposed parent.exposed

theorem name_exposed (d : Declaration) : d.exposed.type.name = d.type.name := by
  induction d with
  | named => rfl
  | method before m ih =>
    rw [exposed]
    split <;> exact ih
  | field before f ih =>
    rw [exposed]
    split <;> exact ih
  | inherits before parent ih => exact ih

theorem usableMethods_exposed (d : Declaration) :
    d.exposed.type.usableMethods = d.type.usableMethods := by
  induction d with
  | named => rfl
  | method before m ih =>
    rw [exposed]
    simp only [HostType.usableMethods] at ih
    split <;> simp_all [type, HostType.usableMethods, HostType.addMethod]
  | field before f ih =>
    rw [exposed]
    split <;> exact ih
  | inherits before parent ih ihParent =>
    simp only [HostType.usableMethods] at ih ihParent
    simp [exposed, type, HostType.usableMethods, HostType.inherit, ih, ihParent]

theorem usableFields_exposed (d : Declaration) :
    d.exposed.type.usableFields = d.type.usableFields := by
  induction d with
  | named => rfl
  | method before m ih =>
    rw [exposed]
    split <;> exact ih
  | field before f ih =>
    rw [exposed]
    simp only [HostType.usableFields] at ih
    split <;> simp_all [type, HostType.usableFields, HostType.addField]
  | inherits before parent ih ihParent =>
    simp only [HostType.usableFields] at ih ihParent
    simp [exposed, type, HostType.usableFields, HostType.inherit, ih, ihParent]

end Declaration

/-- Types declared together. -/
abbrev Family := List Declaration

namespace Family

/-- The declared types. -/
def types (family : Family) : TypeTable := family.map Declaration.type

/-- The family without private members. -/
def exposed (family : Family) : Family := family.map Declaration.exposed

end Family

/-- The search for a member looks at usable members only. -/
theorem HostType.find?_congr {type type' : HostType}
    (methods : type.usableMethods = type'.usableMethods)
    (fields : type.usableFields = type'.usableFields) : type.find? = type'.find? := by
  funext policy id name access
  cases access <;>
    simp only [find?, findGet?, findSet?, findCall?, select?, overloads, methods, fields]

/-- What is resolved on a type depends on its name and on the search alone. -/
theorem ResolverOptions.resolveOn_congr (options : ResolverOptions) {type type' : HostType}
    (name : type.name = type'.name) (find : type.find? = type'.find?) :
    options.resolveOn type = options.resolveOn type' := by
  have duck : options.resolveDuck type = options.resolveDuck type' := by
    have call : type.findCall? = type'.findCall? := by
      funext policy id name kinds
      exact congrFun (congrFun (congrFun (congrFun find policy) id) name) (.call kinds)
    funext id name access cache
    simp only [resolveDuck, call]
  funext id member access cache
  simp only [resolveOn, name, find, duck]

namespace ResolverOptions

theorem resolveOn_exposed (options : ResolverOptions) (d : Declaration) :
    options.resolveOn d.exposed.type = options.resolveOn d.type :=
  options.resolveOn_congr d.name_exposed
    (HostType.find?_congr d.usableMethods_exposed d.usableFields_exposed)

/-- Leaving all private members out makes no difference to a resolver. -/
theorem resolver_exposed (options : ResolverOptions) (family : Family) :
    options.resolver family.exposed.types = options.resolver family.types := by
  funext target name access cache
  unfold resolver
  cases target.receiver? with
  | none => rfl
  | some receiver =>
    cases receiver with
    | text s => simp only [TypeTable.typeOf?, Option.bind_some]
    | object ref =>
      simp only [TypeTable.typeOf?, Family.types, Family.exposed, Option.bind_some,
        List.getElem?_map]
      cases family[ref.typeIndex]? with
      | none => simp only [Option.map_none]
      | some d => simp only [Option.map_some, options.resolveOn_exposed d]

end ResolverOptions

/-- How many handles are kept after each of some requests. -/
def Client.keptHandles (engine : Engine) (client : Client) : List Request → List Nat
  | [] => []
  | request :: rest =>
    let next := (client.step engine request).2
    next.world.cache.size :: next.keptHandles engine rest

/-- The engine of a family of declared types. -/
def Engine.ofFamily (options : Options) (family : Family) (rounds : Nat) : Engine :=
  .ofTypes options family.types rounds

theorem Engine.ofFamily_exposed (options : Options) (family : Family) (rounds : Nat) :
    ofFamily options family.exposed rounds = ofFamily options family rounds := by
  unfold ofFamily ofTypes
  rw [ResolverOptions.resolver_exposed]

/-- Families of types that differ in nothing but private members, and in whether the types
themselves are public, give every client the same replies, contexts and host objects after each
request, and as many kept handles. -/
theorem private_members_invisible {family family' : Family}
    (same : family.exposed = family'.exposed) (options : Options) (rounds : Nat)
    (client : Client) (requests : List Request) :
    client.run (.ofFamily options family rounds) requests =
        client.run (.ofFamily options family' rounds) requests ∧
      client.keptHandles (.ofFamily options family rounds) requests =
        client.keptHandles (.ofFamily options family' rounds) requests := by
  have engines :
      Engine.ofFamily options family rounds = Engine.ofFamily options family' rounds := by
    rw [← Engine.ofFamily_exposed options family, same, Engine.ofFamily_exposed]
  rw [engines]
  exact ⟨rfl, rfl⟩

/-- An account whose private getter and private `get` stand in front of the public field `owner`,
and a savings account that inherits from it. -/
def guardedAccounts : Family :=
  let account := Declaration.field
    (.method (.method (.field (.named "Account" .hidden) (.hidden "owner" "pin"))
      ⟨"getOwner", [], .hidden, .slot "pin"⟩) ⟨"get", [.string], .hidden, .namedSlot⟩)
    (.readOnly "owner" "owner")
  [account, .inherits (.method (.named "Savings" .visible) ⟨"audit", [], .hidden, .fail "no"⟩) account]

/-- The same accounts without anything private. -/
def openAccounts : Family :=
  let account := Declaration.field (.named "Account" .visible) (.readOnly "owner" "owner")
  [account, .inherits (.named "Savings" .visible) account]

theorem private_members_invisible_accounts :
    guardedAccounts.exposed = openAccounts.exposed ∧
      let savings : Value := .object ⟨"s", 1, "Savings"⟩
      let client : Client := ⟨.empty, .ofList [("main", .ofList [("x", savings)])], .empty, .empty⟩
      let requests : List Request := [.compile "u" "x.owner".toList .expression,
        .evaluate "u" "main", .resolve savings "pin" .get, .resolve savings "audit" (.call [])]
      client.run (.ofFamily {} guardedAccounts 10) requests =
          client.run (.ofFamily {} openAccounts 10) requests ∧
        client.keptHandles (.ofFamily {} guardedAccounts 10) requests =
          client.keptHandles (.ofFamily {} openAccounts 10) requests := by
  have same : guardedAccounts.exposed = openAccounts.exposed := rfl
  exact ⟨same, private_members_invisible same {} 10 _ _⟩

end ExprScript
