import ExprScript.Proofs.Host.Calls

/-!
# Territories of host objects

A territory is a set of host objects that no member of an object in it leads out of. A member that
is used on an object and with arguments of the territory reads and writes nothing else, and what it
gives and leaves in slots is of the territory again.
-/

namespace ExprScript

/-- A set of host objects that the constants of their members do not lead out of. -/
structure Territory (types : TypeTable) where
  Holds : ObjectRef → Prop
  constant {a b : ObjectRef} {type : HostType} {kind : HandleKind} {name : String}
    {params : List ParamType} :
    Holds a → types.typeOf? (.object a) = some type →
      type.Offers kind name params (.const (.object b)) → Holds b

namespace Territory

variable {types : TypeTable} (T : Territory types)

/-- The identities of the objects of the territory. -/
def Owns (id : String) : Prop := ∃ ref, T.Holds ref ∧ ref.id = id

/-- The values that can turn up in the territory. -/
def Admits : Value → Prop
  | .object ref => T.Holds ref
  | _ => True

/-- No slot of the territory refers to an object outside. -/
def Sealed (heap : Heap) : Prop := ∀ id, T.Owns id → ∀ slot, T.Admits (heap.read id slot)

/-- The objects of the territory have the same slots in both heaps. -/
def SameOn (heap heap' : Heap) : Prop := ∀ id, T.Owns id → heap.get? id = heap'.get? id

/-- All other objects have the same slots in both heaps. -/
def SameOff (heap heap' : Heap) : Prop := ∀ id, ¬ T.Owns id → heap.get? id = heap'.get? id

/-- A step on the heap that depends on the slots of the territory only, writes only these, and gives
and writes only what the territory admits. -/
structure Confines (step : Heap → Except HostError Value × Heap) : Prop where
  admits {heap : Heap} : T.Sealed heap → Ensures T.Admits (step heap).1
  seals {heap : Heap} : T.Sealed heap → T.Sealed (step heap).2
  off {heap : Heap} : T.Sealed heap → T.SameOff heap (step heap).2
  same {heap heap' : Heap} : T.Sealed heap → T.SameOn heap heap' → (step heap).1 = (step heap').1
  on {heap heap' : Heap} :
    T.Sealed heap → T.SameOn heap heap' → T.SameOn (step heap).2 (step heap').2

variable {T}

theorem admits_of_plain {v : Value} (plain : v.asObject? = none) : T.Admits v := by
  cases v with
  | object ref => cases plain
  | _ => trivial

theorem SameOn.read_eq {heap heap' : Heap} (same : T.SameOn heap heap') {id : String}
    (own : T.Owns id) (slot : String) : heap.read id slot = heap'.read id slot := by
  rw [Heap.read, Heap.read, same id own]

theorem Sealed.of_sameOn {heap heap' : Heap} (h : T.Sealed heap) (same : T.SameOn heap heap') :
    T.Sealed heap' := by
  intro id own slot
  rw [← same.read_eq own slot]
  exact h id own slot

end Territory

theorem Heap.get?_write (heap : Heap) (object slot : String) (v : Value) (id : String) :
    (heap.write object slot v).get? id =
      if id = object then some (((heap.get? object).getD .empty).insert slot v)
      else heap.get? id :=
  heap.get?_insert object id _

theorem Heap.read_write (heap : Heap) (object slot : String) (v : Value) (id slot' : String) :
    (heap.write object slot v).read id slot' =
      if id = object ∧ slot' = slot then v else heap.read id slot' := by
  rw [read, get?_write]
  by_cases here : id = object
  · subst here
    rw [if_pos rfl, Option.bind_some, Table.get?_insert]
    by_cases there : slot' = slot
    · simp [there]
    · cases slots : heap.get? id <;> simp [there, read, slots]
  · rw [if_neg here, if_neg fun both => here both.1, read]

namespace Territory.Confines

variable {types : TypeTable} {T : Territory types} {ref : ObjectRef}

/-- A step that neither reads nor writes slots. -/
theorem value {x : Except HostError Value} (h : Ensures T.Admits x) :
    T.Confines fun heap => (x, heap) where
  admits _ := h
  seals closed := closed
  off _ _ _ := rfl
  same _ _ := rfl
  on _ same := same

/-- Reading a slot of an object of the territory. -/
theorem read (own : T.Holds ref) (slot : String) :
    T.Confines fun heap => (.ok (heap.read ref.id slot), heap) where
  admits closed := .ok (closed ref.id ⟨ref, own, rfl⟩ slot)
  seals closed := closed
  off _ _ _ := rfl
  same _ same := congrArg Except.ok (same.read_eq ⟨ref, own, rfl⟩ slot)
  on _ same := same

/-- Writing a slot of an object of the territory, and giving a value that is no object. What is
written may depend on slots of the territory. -/
theorem write (own : T.Holds ref) (slot : String) {v given : Heap → Value}
    (admitted : ∀ heap, T.Admits (v heap)) (plain : ∀ heap, (given heap).asObject? = none)
    (determined : ∀ {heap heap'}, T.SameOn heap heap' →
      v heap = v heap' ∧ given heap = given heap') :
    T.Confines fun heap => (.ok (given heap), heap.write ref.id slot (v heap)) where
  admits _ := .ok (admits_of_plain (plain _))
  seals {heap} closed id owned slot' := by
    rw [Heap.read_write]
    split
    · exact admitted heap
    · exact closed id owned slot'
  off {heap} _ id foreign := by
    have apart : id ≠ ref.id := fun same => foreign ⟨ref, own, same.symm⟩
    rw [Heap.get?_write, if_neg apart]
  same _ same := congrArg Except.ok (determined same).2
  on {heap heap'} _ same id owned := by
    rw [Heap.get?_write, Heap.get?_write, same ref.id ⟨ref, own, rfl⟩, same id owned,
      (determined same).1]

end Territory.Confines

/-! ### Members -/

/-- The methods of strings give no objects. -/
theorem TextMember.run_plain (member : TextMember) (text : List Char) (arguments : List Value) :
    Ensures (fun v => v.asObject? = none) (member.run text arguments) := by
  have slices (start stop : Int64) :
      Ensures (fun v => v.asObject? = none) (slice text start stop) := by
    unfold slice
    simp only
    split
    · exact .error _
    · exact .ok rfl
  cases member with
  | length | isEmpty | toUpperCase | toLowerCase | trim | equals => exact .ok rfl
  | contains | startsWith | endsWith | concat => exact .bind fun _ _ => .ok rfl
  | indexOf =>
    refine .bind fun part _ => ?_
    split <;> exact .ok rfl
  | charAt =>
    refine .bind fun index _ => ?_
    unfold character
    split
    · exact .error _
    · split
      · exact .ok rfl
      · exact .error _
  | substringFrom => exact .bind fun start _ => slices start _
  | substring => exact .bind fun start _ => .bind fun stop _ => slices start stop
  | replace => exact .bind fun part _ => .bind fun new _ => .ok rfl

/-- The functions of the host reach nothing but what they are run on, what they are given, and what
these lead to. -/
def TypeTable.EffectsConfined (types : TypeTable) : Prop :=
  ∀ (T : Territory types) ⦃ref : ObjectRef⦄ ⦃type : HostType⦄ ⦃kind : HandleKind⦄ ⦃name : String⦄
    ⦃params : List ParamType⦄ ⦃run : ObjectRef → List Value → Heap → Except HostError Value × Heap⦄,
    T.Holds ref → types.typeOf? (.object ref) = some type →
      type.Offers kind name params (.effect run) →
        ∀ arguments, (∀ v ∈ arguments, T.Admits v) → T.Confines (run ref arguments)

namespace Territory

variable {types : TypeTable} {T : Territory types} {type : HostType} {kind : HandleKind}
  {name : String} {params : List ParamType} {body : Body} {arguments : List Value}

theorem admits_argument (admitted : ∀ v ∈ arguments, T.Admits v) (index : Nat) :
    T.Admits (arguments[index]?.getD .null) := by
  cases passed : arguments[index]? with
  | none => trivial
  | some v => exact admitted v (List.mem_of_getElem? passed)

/-- What an object of the territory offers is confined to the territory. -/
theorem confines_runOnObject (effects : types.EffectsConfined) {ref : ObjectRef}
    (own : T.Holds ref) (declared : types.typeOf? (.object ref) = some type)
    (offered : type.Offers kind name params body) (admitted : ∀ v ∈ arguments, T.Admits v) :
    T.Confines (body.runOnObject ref arguments) := by
  have plain {v : Value} (plain : v.asObject? = none) : T.Admits v := admits_of_plain plain
  cases body with
  | const value =>
    refine .value (.ok ?_)
    cases value with
    | object constant => exact T.constant own declared offered
    | null | boolean | integer | float | string => exact plain rfl
  | slot slot => exact .read own slot
  | store slot index =>
    exact .write own slot (fun _ => admits_argument admitted index) (fun _ => rfl)
      fun _ => ⟨rfl, rfl⟩
  | increment slot =>
    refine .write own slot (fun _ => plain rfl) (fun _ => rfl) fun same => ?_
    rw [same.read_eq ⟨ref, own, rfl⟩ slot]
    exact ⟨rfl, rfl⟩
  | argument index => exact .value (.ok (admits_argument admitted index))
  | listArguments => exact .value (.ok (plain rfl))
  | stringArgument index =>
    refine .value (.map fun found _ => plain ?_)
    cases found <;> rfl
  | integerArgument index => exact .value (.map fun _ _ => plain rfl)
  | namedSlot =>
    unfold Body.runOnObject
    cases Body.slotName arguments with
    | error e => exact .value (.error e)
    | ok slot => exact .read own slot
  | storeNamed =>
    unfold Body.runOnObject
    cases Body.slotName arguments with
    | error e => exact .value (.error e)
    | ok slot =>
      exact .write own slot (fun _ => admits_argument admitted 1) (fun _ => rfl)
        fun _ => ⟨rfl, rfl⟩
  | fail message | reject index | text member => exact .value (.error _)
  | effect run => exact effects T own declared offered arguments admitted

theorem confines_run (effects : types.EffectsConfined) {target : Value} {receiver : Receiver}
    (is : target.receiver? = some receiver) (own : T.Admits target)
    (declared : types.typeOf? receiver = some type)
    (offered : type.Offers kind name params body) (admitted : ∀ v ∈ arguments, T.Admits v) :
    T.Confines (body.run receiver arguments) := by
  cases target with
  | object ref =>
    obtain rfl : Receiver.object ref = receiver := Option.some.inj is
    exact confines_runOnObject effects own declared offered admitted
  | string s =>
    obtain rfl : Receiver.text s = receiver := Option.some.inj is
    cases body with
    | text member =>
      exact .value fun v ran => admits_of_plain (member.run_plain s.toList arguments v ran)
    | _ => exact .value (.error _)
  | null | boolean | integer | float => cases is

theorem admits_coerce (p : ParamType) {v : Value} (admitted : T.Admits v) :
    T.Admits (p.coerce v) := by
  cases p <;> cases v <;> exact admitted

theorem admits_given {use : Use} (admitted : ∀ v ∈ use.arguments, T.Admits v) :
    ∀ v ∈ List.zipWith ParamType.coerce params (use.given name kind), T.Admits v := by
  have given : ∀ v ∈ use.given name kind, T.Admits v := by
    intro v listed
    rcases List.mem_append.1 listed with bound | passed
    · split at bound
      · obtain rfl := List.mem_singleton.1 bound
        trivial
      · cases bound
    · exact admitted v passed
  intro v listed
  rw [← List.map_uncurry_zip_eq_zipWith] at listed
  obtain ⟨⟨p, w⟩, pair, rfl⟩ := List.mem_map.1 listed
  exact admits_coerce p (given w (List.of_mem_zip pair).2)

/-- A handle that serves a use in the territory is confined to it. -/
theorem confines_invoke (effects : types.EffectsConfined) {h : Handle} {use : Use}
    {target : Value} {receiver : Receiver} (is : target.receiver? = some receiver)
    (own : T.Admits target) (declared : types.typeOf? receiver = some type)
    (serves : h.Serves type receiver name use body)
    (admitted : ∀ v ∈ use.arguments, T.Admits v) :
    T.Confines (h.invoke receiver use.arguments) := by
  have runs : h.invoke receiver use.arguments = body.run receiver
      (List.zipWith ParamType.coerce h.params (use.given name h.kind)) := funext serves.runs
  rw [runs]
  exact confines_run effects is own declared serves.offered (admits_given admitted)

end Territory

end ExprScript
