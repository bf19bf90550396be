import Mathlib.Data.List.Forall2
import ExprScript.Proofs.Host.Caching
import ExprScript.Proofs.Host.Uses

/-!
# Members get what they are declared to take

A member is chosen by the kinds of the arguments alone. The arguments are paired with parameters and
widened later, when a handle is run, which may be a kept one with a name bound in front. Still a
body is run on its own receiver, with one argument for each parameter and each of the declared type.
-/

namespace ExprScript

/-- The values that a body can find in the place of a parameter. -/
inductive ParamType.Sees : ParamType → Value → Prop where
  | any (v : Value) : Sees any v
  | boolean (b : Bool) : Sees boolean (.boolean b)
  | integer (n : Int64) : Sees integer (.integer n)
  | float (x : Float) : Sees float (.float x)
  | numberInteger (n : Int64) : Sees number (.integer n)
  | numberFloat (x : Float) : Sees number (.float x)
  | string (s : String) : Sees string (.string s)
  | stringNull : Sees string .null
  | object (ref : ObjectRef) : Sees object (.object ref)
  | objectNull : Sees object .null

/-- Widening makes of an accepted argument one of the declared type. -/
theorem ParamType.sees_coerce {p : ParamType} {v : Value} (h : p.accepts v.kind = true) :
    p.Sees (p.coerce v) := by
  cases p <;> cases v <;> first | contradiction | constructor

theorem ParamType.sees_zipWith_coerce {params : List ParamType} {given : List Value}
    (h : List.Forall₂ (fun p k => p.accepts k = true) params (given.map Value.kind)) :
    List.Forall₂ Sees params (List.zipWith coerce params given) := by
  induction given generalizing params with
  | nil =>
    cases h
    exact .nil
  | cons v given ih =>
    obtain _ | ⟨accepts, rest⟩ := h
    exact .cons (sees_coerce accepts) (ih rest)

/-- Whether handles of a kind pass the name of the property in front. -/
def HandleKind.bindsName : HandleKind → Bool
  | duckGet | duckSet => true
  | _ => false

/-- What a type offers publicly: by which kind of handle it is used, its name, its parameters and
what is run. -/
inductive HostType.Offers (type : HostType) : HandleKind → String → List ParamType → Body → Prop where
  | method {kind : HandleKind} {m : Method} :
    m ∈ type.usableMethods → kind ≠ .fieldGet → kind ≠ .fieldSet →
    Offers type kind m.name m.params m.body
  | read {f : Field} : f ∈ type.usableFields → Offers type .fieldGet f.name [] f.read
  | write {f : Field} {body : Body} :
    f ∈ type.usableFields → f.write? = some body → Offers type .fieldSet f.name [.any] body

/-- The values to be passed: those of the use, behind the name of the property if it is bound. -/
def Use.given (use : Use) (name : String) (kind : HandleKind) : List Value :=
  (if kind.bindsName then [.string name] else []) ++ use.arguments

/-- A handle runs a body that the type of the receiver offers, on this receiver, with a value for
each parameter: those given, in order and none left out, each widened to its parameter. -/
structure Handle.Serves (h : Handle) (type : HostType) (receiver : Receiver) (name : String)
    (use : Use) (body : Body) : Prop where
  offered : type.Offers h.kind h.member h.params body
  bound : h.boundName? = if h.kind.bindsName then some name else none
  complete : (use.given name h.kind).length = h.params.length
  conforms :
    List.Forall₂ ParamType.Sees h.params (List.zipWith ParamType.coerce h.params (use.given name h.kind))
  runs : ∀ heap, h.invoke receiver use.arguments heap =
    body.run receiver (List.zipWith ParamType.coerce h.params (use.given name h.kind)) heap

section Selection

variable {type : HostType} {policy : OverloadPolicy} {name : String} {kinds : List ValueKind}
  {m : Method}

theorem Method.accepts_of_isExact (h : m.isExact kinds = true) : m.accepts kinds = true := by
  simp only [isExact, accepts, List.all_eq_true] at h ⊢
  exact fun pair listed => ParamType.accepts_of_isExact (h pair listed)

/-- A method is selected only if it is usable, has the name and accepts all arguments. -/
theorem HostType.of_select? (h : type.select? policy name kinds = some m) :
    m ∈ type.usableMethods ∧ m.name = name ∧
      List.Forall₂ (fun p k => p.accepts k = true) m.params kinds := by
  have chosen : m ∈ type.overloads name kinds.length ∧ m.accepts kinds = true := by
    cases policy with
    | exactThenFirstCompatible =>
      rcases Option.or_eq_some_iff.1 h with found | ⟨-, found⟩
      · have exact := List.find?_some (p := fun m : Method => m.isExact kinds) found
        exact ⟨List.mem_of_find?_eq_some found, Method.accepts_of_isExact exact⟩
      · have accepts := List.find?_some (p := fun m : Method => m.accepts kinds) found
        exact ⟨List.mem_of_find?_eq_some found, accepts⟩
    | firstCompatible =>
      have found : (type.overloads name kinds.length).find? (·.accepts kinds) = some m := h
      have accepts := List.find?_some (p := fun m : Method => m.accepts kinds) found
      exact ⟨List.mem_of_find?_eq_some found, accepts⟩
  obtain ⟨listed, accepts⟩ := chosen
  obtain ⟨usable, fits⟩ := List.mem_filter.1 listed
  simp only [Bool.and_eq_true, beq_iff_eq] at fits
  refine ⟨usable, fits.1, List.forall₂_iff_zip.2 ⟨fits.2, fun pair => ?_⟩⟩
  exact List.all_eq_true.1 accepts _ pair

end Selection

namespace Handle

variable {type : HostType} {receiver : Receiver} {name : String} {use : Use}

/-- When as many values are given as there are parameters, it makes no difference that those of a
member without parameters are passed on as they are. -/
theorem coerced_eq {params : List ParamType} {given : List Value}
    (complete : given.length = params.length) :
    (if params.isEmpty then given else List.zipWith ParamType.coerce params given) =
      List.zipWith ParamType.coerce params given := by
  split
  · rename_i none
    rw [List.isEmpty_iff.1 none] at complete ⊢
    exact List.length_eq_zero_iff.1 complete
  · rfl

theorem passed_eq {h : Handle} (bound : h.boundName? = if h.kind.bindsName then some name else none)
    (complete : (use.given name h.kind).length = h.params.length) :
    h.passed use.arguments =
      List.zipWith ParamType.coerce h.params (use.given name h.kind) := by
  rw [← coerced_eq complete, passed, bound, Use.given]
  cases h.kind.bindsName <;> rfl

/-- A handle serves when the kinds of the values given are accepted one by one. -/
theorem serves_of_accepts {h : Handle} (offered : type.Offers h.kind h.member h.params h.body)
    (bound : h.boundName? = if h.kind.bindsName then some name else none)
    (owner : h.owner = receiver.typeId)
    (accepts : List.Forall₂ (fun p k => p.accepts k = true) h.params
      ((use.given name h.kind).map Value.kind)) :
    h.Serves type receiver name use h.body := by
  have complete : (use.given name h.kind).length = h.params.length := by
    rw [accepts.length_eq, List.length_map]
  refine ⟨offered, bound, complete, ParamType.sees_zipWith_coerce accepts, fun heap => ?_⟩
  rw [invoke, if_pos owner.symm, passed_eq bound complete]

/-- Handles that agree serve alike. -/
theorem Serves.of_agrees {h h' : Handle} {body : Body} (agrees : h.Agrees h')
    (serves : h'.Serves type receiver name use body) : h.Serves type receiver name use body := by
  obtain ⟨offered, bound, complete, conforms, runs⟩ := serves
  constructor
  · rw [agrees.kind, agrees.member, agrees.params]
    exact offered
  · rw [agrees.boundName?, agrees.kind]
    exact bound
  · rw [agrees.kind, agrees.params]
    exact complete
  · rw [agrees.kind, agrees.params]
    exact conforms
  · intro heap
    rw [agrees.invoke, agrees.kind, agrees.params]
    exact runs heap

end Handle

namespace HostType

variable {type : HostType} {policy : OverloadPolicy} {receiver : Receiver} {name method : String}
  {use : Use} {m : Method} {h : Handle}

theorem serves_ofMethod {kind : HandleKind} (member : kind ≠ .fieldGet ∧ kind ≠ .fieldSet)
    (free : kind.bindsName = false)
    (selected : type.select? policy method (use.arguments.map Value.kind) = some m) :
    (Handle.ofMethod receiver.typeId m kind).Serves type receiver name use m.body := by
  obtain ⟨usable, -, accepts⟩ := of_select? selected
  refine Handle.serves_of_accepts (.method usable member.1 member.2) ?_ rfl ?_
  · simp [Handle.ofMethod, free]
  · simpa [Handle.ofMethod, Use.given, free] using accepts

theorem serves_of_findGet? (found : type.findGet? policy receiver.typeId name = some h) :
    ∃ body, h.Serves type receiver name .get body := by
  rcases Option.or_eq_some_iff.1 found with getter | ⟨-, field⟩
  · rcases Option.or_eq_some_iff.1 getter with getter | ⟨-, getter⟩
    · obtain ⟨m, selected, rfl⟩ := Option.map_eq_some_iff.1 getter
      exact ⟨m.body, serves_ofMethod (by simp) rfl selected⟩
    · obtain ⟨m, selected, rfl⟩ := Option.map_eq_some_iff.1 getter
      exact ⟨m.body, serves_ofMethod (by simp) rfl selected⟩
  · obtain ⟨f, listed, rfl⟩ := Option.map_eq_some_iff.1 field
    exact ⟨f.read, Handle.serves_of_accepts (.read (List.mem_of_find?_eq_some listed)) rfl rfl .nil⟩

theorem serves_of_findSet? {v : Value}
    (found : type.findSet? policy receiver.typeId name v.kind = some h) :
    ∃ body, h.Serves type receiver name (.set v) body := by
  rcases Option.or_eq_some_iff.1 found with setter | ⟨-, field⟩
  · obtain ⟨m, selected, rfl⟩ := Option.map_eq_some_iff.1 setter
    exact ⟨m.body, serves_ofMethod (by simp) rfl selected⟩
  · obtain ⟨write, writable, rfl⟩ := Option.map_eq_some_iff.1 field
    obtain ⟨f, listed, write?⟩ := Option.bind_eq_some_iff.1 writable
    have named := List.find?_some listed
    simp only [Bool.and_eq_true, beq_iff_eq] at named
    obtain ⟨rfl, -⟩ := named
    have offered := HostType.Offers.write (List.mem_of_find?_eq_some listed) write?
    exact ⟨write, Handle.serves_of_accepts offered rfl rfl (.cons rfl .nil)⟩

theorem serves_of_find? (found : type.find? policy receiver.typeId name use.access = some h) :
    ∃ body, h.Serves type receiver name use body := by
  cases use with
  | get => exact serves_of_findGet? found
  | set v => exact serves_of_findSet? found
  | call arguments =>
    obtain ⟨m, selected, rfl⟩ := Option.map_eq_some_iff.1 found
    exact ⟨m.body, serves_ofMethod (by simp) rfl selected⟩

/-- A method `get` or `set` that is used for a property takes the name of the property first. -/
theorem serves_of_duckCall? {kinds : List ValueKind} {kind : HandleKind}
    (duck : ResolverOptions.duckCall? use.access = some (method, kinds, kind))
    (found : type.findCall? policy receiver.typeId method kinds = some h) :
    ∃ body, (h.bind name kind).Serves type receiver name use body := by
  obtain ⟨m, selected, rfl⟩ := Option.map_eq_some_iff.1 found
  obtain ⟨usable, -, accepts⟩ := of_select? selected
  cases use with
  | get =>
    obtain ⟨rfl, rfl, rfl⟩ :
        "get" = method ∧ [ValueKind.string] = kinds ∧ HandleKind.duckGet = kind := by
      simpa [Use.access, ResolverOptions.duckCall?] using duck
    have offered : type.Offers .duckGet m.name m.params m.body :=
      .method usable (by simp) (by simp)
    exact ⟨m.body, Handle.serves_of_accepts offered rfl rfl accepts⟩
  | set v =>
    obtain ⟨rfl, rfl, rfl⟩ :
        "set" = method ∧ [ValueKind.string, v.kind] = kinds ∧ HandleKind.duckSet = kind := by
      simpa [Use.access, ResolverOptions.duckCall?] using duck
    have offered : type.Offers .duckSet m.name m.params m.body :=
      .method usable (by simp) (by simp)
    exact ⟨m.body, Handle.serves_of_accepts offered rfl rfl accepts⟩
  | call arguments => simp [Use.access, Access.ofArguments, ResolverOptions.duckCall?] at duck

end HostType

namespace ResolverOptions

variable {policy : OverloadPolicy} {types : TypeTable} {cache : Cache} {target : Value}
  {name : String} {access : Access} {h : Handle}

/-- Without a cache a handle is what the search finds, or it is of a method that takes the name. -/
theorem of_resolveOn_uncached {type : HostType} {id : TypeId}
    (found : (resolveOn ⟨policy, false⟩ type id name access cache).1 = .ok h) :
    type.find? policy id name access = some h ∨
      ∃ method kinds kind h', duckCall? access = some (method, kinds, kind) ∧
        type.findCall? policy id method kinds = some h' ∧ h'.bind name kind = h := by
  cases search : type.find? policy id name access with
  | some h' =>
    simp only [resolveOn, kept?, search, keep, Bool.false_eq_true, if_false,
      Except.ok.injEq] at found
    exact .inl (congrArg some found)
  | none =>
    simp only [resolveOn, kept?, search, resolveDuck, Bool.false_eq_true, if_false] at found
    cases duck : duckCall? access with
    | none => simp [duck] at found
    | some call =>
      obtain ⟨method, kinds, kind⟩ := call
      cases answer : type.findCall? policy id method kinds with
      | none => simp [duck, answer] at found
      | some h' =>
        simp only [duck, answer, keep, Bool.false_eq_true, if_false, Except.ok.injEq] at found
        exact .inr ⟨method, kinds, kind, h', rfl, answer, found⟩

theorem of_resolver_uncached
    (found : (resolver ⟨policy, false⟩ types target name access cache).1 = .ok h) :
    ∃ receiver type, target.receiver? = some receiver ∧ types.typeOf? receiver = some type ∧
      (resolveOn ⟨policy, false⟩ type receiver.typeId name access cache).1 = .ok h := by
  unfold resolver at found
  split at found
  · rename_i id type which
    obtain ⟨receiver, is, which⟩ := Option.bind_eq_some_iff.1 which
    obtain ⟨_, declared, same⟩ := Option.map_eq_some_iff.1 which
    cases same
    exact ⟨receiver, type, is, declared, found⟩
  · simp at found

/-- Nothing is kept without a cache. -/
theorem resolver_uncached (other : Cache) :
    resolver ⟨policy, false⟩ types target name access cache =
      ((resolver ⟨policy, false⟩ types target name access other).1, cache) := by
  unfold resolver
  split
  · rename_i id type _
    simp only [resolveOn, resolveDuck, kept?, keep, Bool.false_eq_true, if_false]
    cases type.find? policy id name access with
    | some h => rfl
    | none =>
      cases duckCall? access with
      | none => rfl
      | some call =>
        obtain ⟨method, kinds, kind⟩ := call
        simp only
        cases type.findCall? policy id method kinds <;> rfl
  · rfl

/-- The cache after some members were asked for. -/
def cacheAfter (options : ResolverOptions) (types : TypeTable) (cache : Cache) :
    List (Value × String × Access) → Cache
  | [] => cache
  | (target, name, access) :: rest =>
    cacheAfter options types (options.resolver types target name access cache).2 rest

/-- Whether handles are kept or not, a sound cache stays sound and answers as no cache would. -/
theorem resolver_sound (options : ResolverOptions) (sound : cache.Sound options.policy types) :
    AnswersAgree (options.resolver types target name access cache).1
        (resolver ⟨options.policy, false⟩ types target name access .empty).1 ∧
      (options.resolver types target name access cache).2.Sound options.policy types := by
  obtain ⟨policy, caching⟩ := options
  cases caching with
  | true => exact resolver_agrees sound target name access .empty
  | false =>
    rw [resolver_uncached .empty]
    refine ⟨?_, sound⟩
    cases (resolver ⟨policy, false⟩ types target name access .empty).1 with
    | ok h => exact .ok (.refl h)
    | error e => exact .error e

theorem sound_cacheAfter (options : ResolverOptions) (asked : List (Value × String × Access))
    (sound : cache.Sound options.policy types) :
    (options.cacheAfter types cache asked).Sound options.policy types := by
  induction asked generalizing cache with
  | nil => exact sound
  | cons request rest ih => exact ih (options.resolver_sound sound).2

/-- Whatever was asked for before, a handle found for a use serves it. -/
theorem serves_of_resolver (options : ResolverOptions) (sound : cache.Sound options.policy types)
    {use : Use} (found : (options.resolver types target name use.access cache).1 = .ok h) :
    ∃ receiver type body, target.receiver? = some receiver ∧ types.typeOf? receiver = some type ∧
      h.Serves type receiver name use body := by
  have agree : AnswersAgree (options.resolver types target name use.access cache).1 _ :=
    (options.resolver_sound sound).1
  rw [found] at agree
  generalize answer :
    (resolver ⟨options.policy, false⟩ types target name use.access .empty).1 = fresh at agree
  cases agree with
  | @ok _ h' agrees =>
    obtain ⟨receiver, type, is, declared, found⟩ := of_resolver_uncached answer
    refine ⟨receiver, type, ?_⟩
    rcases of_resolveOn_uncached found with search | ⟨method, kinds, kind, m, duck, search, rfl⟩
    · obtain ⟨body, serves⟩ := HostType.serves_of_find? search
      exact ⟨body, is, declared, serves.of_agrees agrees⟩
    · obtain ⟨body, serves⟩ := HostType.serves_of_duckCall? duck search
      exact ⟨body, is, declared, serves.of_agrees agrees⟩

end ResolverOptions

namespace Resolver

/-- A member that is found is run on the receiver; what is kept is what finding it kept. -/
theorem useMember_of_found {resolve : Resolver} {target : Value} {receiver : Receiver}
    {name : String} {access : Access} {h : Handle} {w : World}
    (receives : target.receiver? = some receiver)
    (found : (resolve target name access w.cache).1 = .ok h) (arguments : List Value) :
    resolve.useMember target name access arguments w =
      ((h.invoke receiver arguments w.heap).1.mapError (.invocation h.member),
        ⟨(h.invoke receiver arguments w.heap).2, (resolve target name access w.cache).2⟩) := by
  have pair : resolve target name access w.cache =
      (.ok h, (resolve target name access w.cache).2) := Prod.ext found rfl
  have something : ¬ target.isNull = true := by
    cases target with
    | null => cases receives
    | _ => exact Bool.false_ne_true
  rw [useMember, if_neg something, pair]
  simp only [Handle.runOn, receives]

end Resolver

section Receivers

/-- Whether a body is made for objects, as those of declared types are. -/
def Body.OfObjects (body : Body) : Prop := ∀ member, body ≠ .text member

/-- Types whose members are made for their own objects. -/
def TypeTable.OfObjects (types : TypeTable) : Prop :=
  ∀ type ∈ types, (∀ m ∈ type.methods, m.body.OfObjects) ∧
    ∀ f ∈ type.fields, f.read.OfObjects ∧ ∀ body, f.write? = some body → body.OfObjects

/-- Whether a body is made for a receiver. -/
def Body.MadeFor (body : Body) : Receiver → Prop
  | .text _ => ∃ member, body = .text member
  | .object _ => body.OfObjects

theorem HostType.Offers.madeFor_text {kind : HandleKind} {name : String} {params : List ParamType}
    {body : Body} (offered : HostType.text.Offers kind name params body) :
    ∃ member, body = .text member := by
  cases offered with
  | method usable =>
    obtain ⟨member, -, rfl⟩ := List.mem_map.1 (List.mem_filter.1 usable).1
    exact ⟨member, rfl⟩
  | read usable => simp [usableFields, text] at usable
  | write usable => simp [usableFields, text] at usable

theorem HostType.Offers.madeFor {types : TypeTable} {type : HostType} {receiver : Receiver}
    {kind : HandleKind} {name : String} {params : List ParamType} {body : Body}
    (own : types.OfObjects) (declared : types.typeOf? receiver = some type)
    (offered : type.Offers kind name params body) : body.MadeFor receiver := by
  cases receiver with
  | text s =>
    obtain rfl : HostType.text = type := Option.some.inj declared
    exact offered.madeFor_text
  | object ref =>
    obtain ⟨methods, fields⟩ := own type (List.mem_of_getElem? declared)
    cases offered with
    | method usable => exact methods _ (List.mem_filter.1 usable).1
    | read usable => exact (fields _ (List.mem_filter.1 usable).1).1
    | write usable write? => exact (fields _ (List.mem_filter.1 usable).1).2 _ write?

/-- A result other than the refusal of the receiver. -/
def Accepts {α : Type} (result : Except HostError α) : Prop := result ≠ .error .wrongReceiver

namespace Accepts

variable {α β : Type} {x : Except HostError α}

theorem ok (a : α) : Accepts (.ok a : Except HostError α) := by simp [Accepts]

theorem bind {f : α → Except HostError β} (first : Accepts x) (next : ∀ a, Accepts (f a)) :
    Accepts (x >>= f) := by
  cases x with
  | ok a => exact next a
  | error e =>
    intro refused
    exact first (congrArg Except.error (Except.error.inj refused))

theorem map (f : α → β) (h : Accepts x) : Accepts (x.map f) := by
  cases x with
  | ok a => exact ok (f a)
  | error e =>
    intro refused
    exact h (congrArg Except.error (Except.error.inj refused))

theorem stringArgument (arguments : List Value) (index : Nat) :
    Accepts (ExprScript.stringArgument arguments index) := by
  unfold ExprScript.stringArgument
  split <;> simp [Accepts]

theorem integerArgument (arguments : List Value) (index : Nat) :
    Accepts (ExprScript.integerArgument arguments index) := by
  unfold ExprScript.integerArgument
  split <;> simp [Accepts]

theorem textArgument (arguments : List Value) (index : Nat) :
    Accepts (ExprScript.textArgument arguments index) := by
  refine (stringArgument arguments index).bind fun found => ?_
  split
  · exact ok _
  · simp [Accepts]

theorem slice (text : List Char) (start stop : Int64) :
    Accepts (TextMember.slice text start stop) := by
  unfold TextMember.slice
  simp only
  split
  · simp [Accepts, TextMember.outOfRange]
  · exact ok _

theorem character (text : List Char) (index : Int64) :
    Accepts (TextMember.character text index) := by
  unfold TextMember.character
  split
  · simp [Accepts, TextMember.outOfRange]
  · split
    · exact ok _
    · simp [Accepts, TextMember.outOfRange]

/-- The members of strings refuse no string. -/
theorem textMember (member : TextMember) (text : List Char) (arguments : List Value) :
    Accepts (member.run text arguments) := by
  cases member with
  | length | isEmpty | toUpperCase | toLowerCase | trim | equals => exact ok _
  | contains | startsWith | endsWith | concat => exact (textArgument arguments 0).bind fun _ => ok _
  | indexOf =>
    refine (textArgument arguments 0).bind fun part => ?_
    split <;> exact ok _
  | charAt => exact (integerArgument arguments 0).bind fun index => character text index
  | substringFrom => exact (integerArgument arguments 0).bind fun start => slice text start _
  | substring =>
    exact (integerArgument arguments 0).bind fun start =>
      (integerArgument arguments 1).bind fun stop => slice text start stop
  | replace =>
    exact (textArgument arguments 0).bind fun _ => (textArgument arguments 1).bind fun _ => ok _

end Accepts

/-- A body refuses a receiver that it is made for only where a function of the host says so. -/
theorem Body.MadeFor.accepts {body : Body} {receiver : Receiver} (made : body.MadeFor receiver)
    (own : ∀ run, body ≠ .effect run) (arguments : List Value) (heap : Heap) :
    Accepts (body.run receiver arguments heap).1 := by
  cases receiver with
  | text s =>
    obtain ⟨member, rfl⟩ := made
    exact .textMember member s.toList arguments
  | object ref =>
    cases body with
    | text member => exact absurd rfl (made member)
    | effect run => exact absurd rfl (own run)
    | stringArgument index => exact (Accepts.stringArgument arguments index).map _
    | integerArgument index => exact (Accepts.integerArgument arguments index).map _
    | namedSlot => exact ((Accepts.stringArgument arguments 0).map _).map _
    | storeNamed =>
      have named := (Accepts.stringArgument arguments 0).map (·.getD "")
      simp only [run, runOnObject, slotName]
      split
      · rename_i e failed
        rw [failed] at named
        intro refused
        exact named (congrArg Except.error (Except.error.inj refused))
      · exact .ok _
    | fail message | reject index => simp [Accepts, run, runOnObject]
    | const | slot | store | increment | argument | listArguments => exact .ok _

end Receivers

/-- A type whose properties are all written by one method, which takes a double. -/
def gauges : TypeTable :=
  [(HostType.named "Gauge" .visible).addMethod ⟨"set", [.string, .float], .visible, .storeNamed⟩]

end ExprScript
