import ExprScript.Proofs.Host.Calls

/-!
# Routes to a member

A use of a member is tried in a fixed order of routes: by methods of certain names and by fields.
The first route that leads to a public member decides, wherever the member is declared, and there is
no member only if no route leads to one. What is kept of earlier requests has no say in it.
-/

namespace ExprScript

/-- A way in which a use may be answered. -/
inductive Route where
  /-- A method of a name that takes arguments of these kinds, for a handle of a kind. -/
  | method (called : String) (kinds : List ValueKind) (kind : HandleKind)
  /-- A field, to read it. -/
  | read
  /-- A field, to write it. -/
  | write

/-- The routes of a use of a name, the first to be tried in front. -/
def Access.routes (name : String) : Access → List Route
  | get => [.method (accessorName "get" name) [] .getter,
      .method (accessorName "is" name) [] .getter, .read, .method "get" [.string] .duckGet]
  | set kind => [.method (accessorName "set" name) [kind] .setter, .write,
      .method "set" [.string, kind] .duckSet]
  | call kinds => [.method name kinds .method]

/-- A fresh handle of a method; the name is bound where handles of the kind pass it on. -/
def Handle.through (id : TypeId) (name : String) (m : Method) (kind : HandleKind) : Handle :=
  ⟨m.name, kind, m.params, if kind.bindsName then some name else none, id, m.body, none⟩

/-- A fresh handle that reads a field. -/
def Handle.reading (id : TypeId) (f : Field) : Handle :=
  ⟨f.name, .fieldGet, [], none, id, f.read, none⟩

/-- A fresh handle that writes a field. -/
def Handle.writing (id : TypeId) (f : Field) (write : Body) : Handle :=
  ⟨f.name, .fieldSet, [.any], none, id, write, none⟩

namespace HostType

/-- A public method of a name that accepts arguments of these kinds, one for each parameter. -/
structure Usable (type : HostType) (m : Method) (name : String) (kinds : List ValueKind) :
    Prop where
  declared : m ∈ type.methods
  visible : m.visibility = .visible
  name_eq : m.name = name
  accepts : List.Forall₂ (fun p k => p.accepts k = true) m.params kinds

/-- `type.Candidate id name route h`: the route leads to a public member of the type, and this is its
handle. Of fields only the first of a name counts, among those that can be written if it is to be. -/
inductive Candidate (type : HostType) (id : TypeId) (name : String) : Route → Handle → Prop where
  | method {m : Method} {called : String} {kinds : List ValueKind} (kind : HandleKind)
      (usable : type.Usable m called kinds) :
      Candidate type id name (.method called kinds kind) (.through id name m kind)
  | read {before after : List Field} {f : Field} (place : type.fields = before ++ f :: after)
      (visible : f.visibility = .visible) (named : f.name = name)
      (first : ∀ g ∈ before, g.visibility = .visible → g.name ≠ name) :
      Candidate type id name .read (.reading id f)
  | write {before after : List Field} {f : Field} {body : Body}
      (place : type.fields = before ++ f :: after) (visible : f.visibility = .visible)
      (named : f.name = name) (writable : f.write? = some body)
      (first : ∀ g ∈ before, g.visibility = .visible → g.name = name → g.write? = none) :
      Candidate type id name .write (.writing id f body)

/-- `type.Decides id name access answer`: the answer is a member that a route leads to and no route
before it leads to any, or there is none and nothing is found. -/
inductive Decides (type : HostType) (id : TypeId) (name : String) (access : Access) :
    Except ResolveError Handle → Prop where
  | found {earlier later : List Route} {route : Route} {h h' : Handle}
      (order : access.routes name = earlier ++ route :: later)
      (candidate : type.Candidate id name route h) (agrees : h'.Agrees h)
      (nothing : ∀ other ∈ earlier, ∀ h, ¬ type.Candidate id name other h) :
      Decides type id name access (.ok h')
  | none (nothing : ∀ route ∈ access.routes name, ∀ h, ¬ type.Candidate id name route h) :
      Decides type id name access (.error (.notFound type.name name access))

/-- What a route leads to. -/
def attempt? (type : HostType) (policy : OverloadPolicy) (id : TypeId) (name : String) :
    Route → Option Handle
  | .method called kinds kind => (type.select? policy called kinds).map (.through id name · kind)
  | .read => (type.usableFields.find? (·.name == name)).map (.reading id)
  | .write => (type.usableFields.find? fun f => f.name == name && f.write?.isSome).bind fun f =>
      f.write?.map (.writing id f)

section

variable {type : HostType} {policy : OverloadPolicy} {id : TypeId} {name : String}
  {kinds : List ValueKind} {route : Route} {h : Handle}

theorem usable_iff {m : Method} :
    type.Usable m name kinds ↔
      m ∈ type.overloads name kinds.length ∧ m.accepts kinds = true := by
  simp only [overloads, usableMethods, List.mem_filter, decide_eq_true_eq, Bool.and_eq_true,
    beq_iff_eq, Method.accepts, List.all_eq_true]
  constructor
  · rintro ⟨declared, visible, name_eq, accepts⟩
    exact ⟨⟨⟨declared, visible⟩, name_eq, accepts.length_eq⟩,
      fun pair listed => (List.forall₂_iff_zip.1 accepts).2 listed⟩
  · rintro ⟨⟨⟨declared, visible⟩, name_eq, arity⟩, accepts⟩
    exact ⟨declared, visible, name_eq,
      List.forall₂_iff_zip.2 ⟨arity, fun listed => accepts _ listed⟩⟩

/-- Either policy selects a method when there is one that can be used. -/
theorem select?_eq_none_iff :
    type.select? policy name kinds = none ↔ ∀ m, ¬ type.Usable m name kinds := by
  simp only [usable_iff, not_and, Bool.not_eq_true]
  cases policy with
  | firstCompatible => simp [select?, List.find?_eq_none]
  | exactThenFirstCompatible =>
    simp only [select?, Option.or_eq_none_iff, List.find?_eq_none, Bool.not_eq_true]
    refine ⟨fun none => none.2, fun none => ⟨fun m listed => ?_, none⟩⟩
    by_contra exact
    have accepts := Method.accepts_of_isExact (Bool.of_not_eq_false exact)
    rw [none m listed] at accepts
    cases accepts

theorem find?_usableFields {p : Field → Bool} {f : Field} :
    type.usableFields.find? p = some f ↔
      f.visibility = .visible ∧ p f = true ∧ ∃ before after, type.fields = before ++ f :: after ∧
        ∀ g ∈ before, g.visibility = .visible → p g = false := by
  rw [usableFields, List.find?_filter, List.find?_eq_some_iff_append]
  simp only [decide_eq_true_eq, and_assoc, Bool.not_eq_true', decide_eq_false_iff_not, not_and,
    Bool.not_eq_true, exists_and_right]

theorem candidate_of_attempt? (found : type.attempt? policy id name route = some h) :
    type.Candidate id name route h := by
  cases route with
  | method called kinds kind =>
    obtain ⟨m, selected, rfl⟩ := Option.map_eq_some_iff.1 found
    obtain ⟨usable, named, accepts⟩ := of_select? selected
    obtain ⟨declared, visible⟩ := List.mem_filter.1 usable
    exact .method kind ⟨declared, by simpa using visible, named, accepts⟩
  | read =>
    obtain ⟨f, listed, rfl⟩ := Option.map_eq_some_iff.1 found
    obtain ⟨visible, named, before, after, place, first⟩ := find?_usableFields.1 listed
    exact .read place visible (by simpa using named) (by simpa using first)
  | write =>
    obtain ⟨f, listed, found⟩ := Option.bind_eq_some_iff.1 found
    obtain ⟨body, writable, rfl⟩ := Option.map_eq_some_iff.1 found
    obtain ⟨visible, named, before, after, place, first⟩ := find?_usableFields.1 listed
    simp only [Bool.and_eq_true, beq_iff_eq] at named
    exact .write place visible named.1 writable (by simpa using first)

theorem attempt?_of_candidate (candidate : type.Candidate id name route h) :
    (type.attempt? policy id name route).isSome := by
  cases candidate with
  | @method m called kinds kind usable =>
    rw [attempt?, Option.isSome_map, Option.isSome_iff_ne_none]
    exact fun none => select?_eq_none_iff.1 none m usable
  | @read before after f place visible named first =>
    have found : type.usableFields.find? (·.name == name) = some f :=
      find?_usableFields.2 ⟨visible, by simp [named], before, after, place, by simpa using first⟩
    simp [attempt?, found]
  | @write before after f body place visible named writable first =>
    have found : type.usableFields.find? (fun f => f.name == name && f.write?.isSome) = some f :=
      find?_usableFields.2
        ⟨visible, by simp [named, writable], before, after, place, by simpa using first⟩
    simp [attempt?, found, writable]

end

end HostType

/-- The answer that is given by the first of some handles. -/
def answerOf (type : HostType) (name : String) (access : Access) (found : Option Handle) :
    Except ResolveError Handle :=
  match found with
  | some h => .ok h
  | none => .error (.notFound type.name name access)

namespace ResolverOptions

/-- Without a cache the answer is that of the first route that leads to a member. -/
theorem resolveOn_uncached (policy : OverloadPolicy) (type : HostType) (id : TypeId) (name : String)
    (access : Access) (cache : Cache) :
    (resolveOn ⟨policy, false⟩ type id name access cache).1 =
      answerOf type name access ((access.routes name).findSome? (type.attempt? policy id name)) := by
  simp only [resolveOn, resolveDuck, kept?, keep, Bool.false_eq_true, if_false]
  cases access with
  | get =>
    simp only [HostType.find?, HostType.findGet?, duckCall?, HostType.findCall?, Access.routes,
      List.findSome?_cons, HostType.attempt?, List.findSome?_nil]
    cases type.select? policy (accessorName "get" name) [] with
    | some m => rfl
    | none =>
    cases type.select? policy (accessorName "is" name) [] with
    | some m => rfl
    | none =>
    cases type.usableFields.find? (·.name == name) with
    | some f => rfl
    | none => cases type.select? policy "get" [.string] <;> rfl
  | set kind =>
    simp only [HostType.find?, HostType.findSet?, duckCall?, HostType.findCall?, Access.routes,
      List.findSome?_cons, HostType.attempt?, List.findSome?_nil]
    cases type.select? policy (accessorName "set" name) [kind] with
    | some m => rfl
    | none =>
    cases found : type.usableFields.find? fun f => f.name == name && f.write?.isSome with
    | none => cases type.select? policy "set" [.string, kind] <;> rfl
    | some f =>
      have fits := List.find?_some found
      simp only [Bool.and_eq_true, beq_iff_eq] at fits
      obtain ⟨rfl, writable⟩ := fits
      obtain ⟨write, body⟩ := Option.isSome_iff_exists.1 writable
      simp [body]
      rfl
  | call kinds =>
    simp only [HostType.find?, duckCall?, HostType.findCall?, Access.routes,
      List.findSome?_cons, HostType.attempt?, List.findSome?_nil]
    cases type.select? policy name kinds <;> rfl

theorem decides_uncached (policy : OverloadPolicy) (type : HostType) (id : TypeId) (name : String)
    (access : Access) (cache : Cache) {answer : Except ResolveError Handle}
    (agree : AnswersAgree answer (resolveOn ⟨policy, false⟩ type id name access cache).1) :
    type.Decides id name access answer := by
  rw [resolveOn_uncached] at agree
  cases found : (access.routes name).findSome? (type.attempt? policy id name) with
  | none =>
    rw [found] at agree
    cases agree
    refine .none fun route listed h candidate => ?_
    have attempted : (type.attempt? policy id name route).isSome :=
      HostType.attempt?_of_candidate candidate
    rw [List.findSome?_eq_none_iff.1 found route listed] at attempted
    cases attempted
  | some h =>
    rw [found] at agree
    cases agree with
    | ok agrees =>
      obtain ⟨earlier, route, later, order, attempted, others⟩ := List.findSome?_eq_some_iff.1 found
      refine .found order (HostType.candidate_of_attempt? attempted) agrees
        fun other listed h' candidate => ?_
      have attempted : (type.attempt? policy id name other).isSome :=
        HostType.attempt?_of_candidate candidate
      rw [others other listed] at attempted
      cases attempted

/-- Whatever was asked for before, the answer on the type of a receiver is that without a cache. -/
theorem resolver_agrees_uncached (options : ResolverOptions) {types : TypeTable}
    (asked : List (Value × String × Access)) {target : Value} {receiver : Receiver}
    {type : HostType} (receives : target.receiver? = some receiver)
    (declared : types.typeOf? receiver = some type) (name : String) (access : Access) :
    AnswersAgree
      (options.resolver types target name access (options.cacheAfter types .empty asked)).1
      (resolveOn ⟨options.policy, false⟩ type receiver.typeId name access .empty).1 := by
  have sound : (options.cacheAfter types .empty asked).Sound options.policy types :=
    sound_cacheAfter options asked Cache.sound_empty
  have agree : AnswersAgree (options.resolver types target name access _).1 _ :=
    (options.resolver_sound sound).1
  simpa [resolver, receives, declared] using agree

/-- The first route that leads to a public member decides, whatever was asked for before. Nothing is
found exactly when none does. -/
theorem routes_decide (options : ResolverOptions) (types : TypeTable)
    (asked : List (Value × String × Access)) {target : Value} {receiver : Receiver}
    {type : HostType} (receives : target.receiver? = some receiver)
    (declared : types.typeOf? receiver = some type) (name : String) (access : Access)
    {answer : Except ResolveError Handle}
    (answered : (options.resolver types target name access
      (options.cacheAfter types .empty asked)).1 = answer) :
    type.Decides receiver.typeId name access answer ∧
      (answer = .error (.notFound type.name name access) ↔
        ∀ route ∈ access.routes name, ∀ h, ¬ type.Candidate receiver.typeId name route h) := by
  have agree := options.resolver_agrees_uncached asked receives declared name access
  rw [answered] at agree
  have decides := decides_uncached options.policy type receiver.typeId name access .empty agree
  refine ⟨decides, ?_⟩
  cases decides with
  | none nothing => simpa using nothing
  | found order candidate =>
    refine ⟨nofun, fun nothing => absurd candidate (nothing _ ?_ _)⟩
    simp [order]

/-- A shape with a getter of its size, and a box that inherits it behind a field of the same name. -/
def boxes : TypeTable :=
  let shape := (HostType.named "Shape" .visible).addMethod ⟨"getSize", [], .visible, .slot "area"⟩
  [shape, ((HostType.named "Box" .visible).addField (.writable "size" "width")).inherit shape]

/-- The getter decides, though it is only inherited and the field was written before. -/
theorem routes_decide_boxes :
    let box : ObjectRef := ⟨"b", 1, "Box"⟩
    let type := boxes.getD 1 .text
    let getter : Method := ⟨"getSize", [], .visible, .slot "area"⟩
    let answer : Except ResolveError Handle :=
      .ok { Handle.through (.declared 1) "size" getter .getter with
        key? := some ⟨.declared 1, "size", .get⟩ }
    (Value.object box).receiver? = some (.object box) ∧ boxes.typeOf? (.object box) = some type ∧
      (resolver ⟨.firstCompatible, true⟩ boxes (.object box) "size" .get
        (cacheAfter ⟨.firstCompatible, true⟩ boxes .empty
          [(.object box, "size", .set .integer)])).1 = answer ∧
      type.Decides (.declared 1) "size" .get answer := by
  intro box type getter answer
  have receives : (Value.object box).receiver? = some (.object box) := rfl
  have answered : (resolver ⟨.firstCompatible, true⟩ boxes (.object box) "size" .get
      (cacheAfter ⟨.firstCompatible, true⟩ boxes .empty
        [(.object box, "size", .set .integer)])).1 = answer := rfl
  exact ⟨receives, rfl, answered,
    (routes_decide ⟨.firstCompatible, true⟩ boxes [(.object box, "size", .set .integer)] receives
      rfl "size" .get answered).1⟩

end ResolverOptions

end ExprScript
