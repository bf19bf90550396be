import ExprScript.Host.Part
import ExprScript.Proofs.Host.Policies
import ExprScript.Proofs.Host.Privacy

/-!
# Inheritance

A type that inherits and declares nothing public under the names that a use looks for answers the
use as its parent does, on the part of the object. A public method that is declared in front of what
is inherited hides every inherited method with its name and parameters.
-/

namespace ExprScript

variable {part : ObjectRef → ObjectRef}

/-! ### Members on parts -/

/-- A body does on an object what another does on its part. -/
def Body.Passes (part : ObjectRef → ObjectRef) (body body' : Body) : Prop :=
  ∀ ref arguments heap,
    body'.runOnObject ref arguments heap = body.runOnObject (part ref) arguments heap

structure Method.Passes (part : ObjectRef → ObjectRef) (m m' : Method) : Prop where
  name : m.name = m'.name
  params : m.params = m'.params
  visibility : m.visibility = m'.visibility
  body : m.body.Passes part m'.body

structure Field.Passes (part : ObjectRef → ObjectRef) (f f' : Field) : Prop where
  name : f.name = f'.name
  visibility : f.visibility = f'.visibility
  read : f.read.Passes part f'.read
  write? : Option.Rel (Body.Passes part) f.write? f'.write?

/-- Whether a body knows of an object only its slots. -/
def Body.isPlain : Body → Bool
  | effect _ => false
  | _ => true

/-- A type whose members know of objects only their slots. -/
structure HostType.Plain (type : HostType) : Prop where
  methods : ∀ m ∈ type.methods, m.body.isPlain = true
  reads : ∀ f ∈ type.fields, f.read.isPlain = true
  writes : ∀ f ∈ type.fields, ∀ body ∈ f.write?, body.isPlain = true

/-- `type.TakenOver part inherited`: how the members of the type of a part are inherited. They are
passed on to the part, or they are used as they are when the part is no object apart. -/
inductive HostType.TakenOver (type : HostType) (part : ObjectRef → ObjectRef) :
    HostType → Prop where
  | passed : TakenOver type part (type.onPart part)
  | shared (plain : type.Plain) (same : ∀ ref, (part ref).same ref = true) :
      TakenOver type part type

theorem Body.passes_onPart (part : ObjectRef → ObjectRef) (body : Body) :
    body.Passes part (body.onPart part) :=
  fun _ _ _ => rfl

theorem Body.passes_of_isPlain {body : Body} (plain : body.isPlain = true)
    (same : ∀ ref, (part ref).same ref = true) : body.Passes part body := by
  intro ref arguments heap
  have id : ref.id = (part ref).id := (beq_iff_eq.1 (same ref)).symm
  cases body with
  | effect => cases plain
  | slot | store | increment | namedSlot | storeNamed => simp only [runOnObject, id]
  | _ => rfl

namespace HostType

variable {type parent inherited : HostType}

theorem TakenOver.methods (taken : parent.TakenOver part inherited) :
    List.Forall₂ (Method.Passes part) parent.methods inherited.methods := by
  cases taken with
  | passed =>
    rw [onPart, List.forall₂_map_right_iff]
    exact List.forall₂_same.2 fun m _ => ⟨rfl, rfl, rfl, m.body.passes_onPart part⟩
  | shared plain same =>
    exact List.forall₂_same.2 fun m listed =>
      ⟨rfl, rfl, rfl, Body.passes_of_isPlain (plain.methods m listed) same⟩

theorem TakenOver.fields (taken : parent.TakenOver part inherited) :
    List.Forall₂ (Field.Passes part) parent.fields inherited.fields := by
  cases taken with
  | passed =>
    rw [onPart, List.forall₂_map_right_iff]
    refine List.forall₂_same.2 fun f _ => ⟨rfl, rfl, f.read.passes_onPart part, ?_⟩
    change Option.Rel _ f.write? (f.write?.map _)
    cases f.write? with
    | none => exact .none
    | some body => exact .some (body.passes_onPart part)
  | shared plain same =>
    refine List.forall₂_same.2 fun f listed =>
      ⟨rfl, rfl, Body.passes_of_isPlain (plain.reads f listed) same, ?_⟩
    have writes := plain.writes f listed
    cases h : f.write? with
    | none => exact .none
    | some body => exact .some (Body.passes_of_isPlain (writes body h) same)

end HostType

/-! ### Searching what is inherited -/

section

variable {α β γ δ : Type} {R : α → β → Prop} {S : γ → δ → Prop} {a? : Option α} {b? : Option β}

theorem isSome_eq_of_rel (related : Option.Rel R a? b?) : a?.isSome = b?.isSome := by
  cases related <;> rfl

theorem rel_bind {f : α → Option γ} {g : β → Option δ} (related : Option.Rel R a? b?)
    (h : ∀ a b, R a b → Option.Rel S (f a) (g b)) : Option.Rel S (a?.bind f) (b?.bind g) := by
  cases related with
  | none => exact .none
  | some related => exact h _ _ related

theorem rel_map {f : α → γ} {g : β → δ} (related : Option.Rel R a? b?)
    (h : ∀ a b, R a b → S (f a) (g b)) : Option.Rel S (a?.map f) (b?.map g) := by
  cases related with
  | none => exact .none
  | some related => exact .some (h _ _ related)

end

/-- Searches that cannot tell related elements apart find related elements. -/
theorem find?_forall₂ {α β : Type} {R : α → β → Prop} {p : α → Bool} {q : β → Bool} {l : List α}
    {l' : List β} (related : List.Forall₂ R l l') (same : ∀ a b, R a b → p a = q b) :
    Option.Rel R (l.find? p) (l'.find? q) := by
  induction related with
  | nil => exact .none
  | @cons a b l l' head _ ih =>
    cases h : p a with
    | true =>
      rw [List.find?_cons_of_pos h, List.find?_cons_of_pos ((same a b head).symm.trans h)]
      exact .some head
    | false =>
      have h' : ¬ q b = true := by simp [← same a b head, h]
      rw [List.find?_cons_of_neg (by simp [h]), List.find?_cons_of_neg h']
      exact ih

theorem filter_forall₂ {α β : Type} {R : α → β → Prop} {p : α → Bool} {q : β → Bool} {l : List α}
    {l' : List β} (related : List.Forall₂ R l l') (same : ∀ a b, R a b → p a = q b) :
    List.Forall₂ R (l.filter p) (l'.filter q) := by
  induction related with
  | nil => exact .nil
  | @cons a b l l' head _ ih =>
    cases h : p a with
    | true =>
      rw [List.filter_cons_of_pos h, List.filter_cons_of_pos ((same a b head).symm.trans h)]
      exact .cons head ih
    | false =>
      have h' : ¬ q b = true := by simp [← same a b head, h]
      rw [List.filter_cons_of_neg (by simp [h]), List.filter_cons_of_neg h']
      exact ih

/-- None of the public ones among some methods and fields has the name that a route looks for. -/
def Route.Avoids (name : String) (methods : List Method) (fields : List Field) : Route → Prop
  | .method called _ _ => ∀ m ∈ methods, m.visibility = .visible → m.name ≠ called
  | .read | .write => ∀ f ∈ fields, f.visibility = .visible → f.name ≠ name

/-- Handles of one member: the one is found on the type of a part, and the other does on objects of
the type at a place what the one does on their parts. -/
structure Handle.Passes (part : ObjectRef → ObjectRef) (place : Nat) (h h' : Handle) : Prop where
  member : h.member = h'.member
  kind : h.kind = h'.kind
  params : h.params = h'.params
  boundName? : h.boundName? = h'.boundName?
  invoke : ∀ object arguments heap, object.typeIndex = place →
    h'.invoke (.object object) arguments heap = h.invoke (.object (part object)) arguments heap

/-- A body that is passed on makes a handle that is. -/
theorem Handle.passes_of_body {i j : Nat}
    (parts : ∀ object, object.typeIndex = i → (part object).typeIndex = j) {body body' : Body}
    (passes : body.Passes part body') (member : String) (kind : HandleKind)
    (params : List ParamType) (bound? : Option String) :
    Handle.Passes part i ⟨member, kind, params, bound?, .declared j, body, none⟩
      ⟨member, kind, params, bound?, .declared i, body', none⟩ := by
  refine ⟨rfl, rfl, rfl, rfl, fun object arguments heap place => ?_⟩
  have owner : (Receiver.object object).typeId = .declared i := congrArg _ place
  have owner' : (Receiver.object (part object)).typeId = .declared j :=
    congrArg _ (parts object place)
  simp only [invoke, owner, owner', if_true]
  exact passes _ _ _

namespace HostType

variable {before parent inherited : HostType} {methods : List Method} {fields : List Field}
  {name : String}

theorem select?_passes {type type' : HostType} (policy : OverloadPolicy) (called : String)
    (kinds : List ValueKind)
    (overloads : List.Forall₂ (Method.Passes part) (type.overloads called kinds.length)
      (type'.overloads called kinds.length)) :
    Option.Rel (Method.Passes part) (type.select? policy called kinds)
      (type'.select? policy called kinds) := by
  have accepts := find?_forall₂ (p := (·.accepts kinds)) (q := (·.accepts kinds)) overloads
    fun m m' passes => by rw [Method.accepts, Method.accepts, passes.params]
  cases policy with
  | firstCompatible => exact accepts
  | exactThenFirstCompatible =>
    have exact := find?_forall₂ (p := (·.isExact kinds)) (q := (·.isExact kinds)) overloads
      fun m m' passes => by rw [Method.isExact, Method.isExact, passes.params]
    change Option.Rel _ (Option.or _ _) (Option.or _ _)
    generalize (type.overloads called kinds.length).find? (·.isExact kinds) = m? at exact
    generalize (type'.overloads called kinds.length).find? (·.isExact kinds) = m'? at exact
    cases exact with
    | none => exact accepts
    | some passes => exact .some passes

/-- Methods that are declared around do not matter when none of them is looked for. -/
theorem overloads_inherit (inherited : HostType) (fields : List Field) {called : String}
    (arity : Nat)
    (avoids : ∀ m ∈ before.methods ++ methods, m.visibility = .visible → m.name ≠ called) :
    ((before.inherit inherited).declare methods fields).overloads called arity =
      inherited.overloads called arity := by
  have others {l : List Method} (among : ∀ m ∈ l, m ∈ before.methods ++ methods) :
      l.filter (·.isOverload called arity) = [] := by
    refine List.filter_eq_nil_iff.2 fun m listed overload => ?_
    simp only [Method.isOverload, Bool.and_eq_true, decide_eq_true_eq, beq_iff_eq] at overload
    exact avoids m (among m listed) overload.1 overload.2.1
  have listed : ((before.inherit inherited).declare methods fields).methods =
      before.methods ++ inherited.methods ++ methods := rfl
  rw [overloads_eq, overloads_eq, listed, List.filter_append, List.filter_append,
    others fun _ => List.mem_append_left _, others fun _ => List.mem_append_right _,
    List.nil_append, List.append_nil]

theorem usableFields_inherit (inherited : HostType) (methods : List Method) {p : Field → Bool}
    (named : ∀ f, p f = true → f.name = name)
    (avoids : ∀ f ∈ before.fields ++ fields, f.visibility = .visible → f.name ≠ name) :
    ((before.inherit inherited).declare methods fields).usableFields.find? p =
      inherited.usableFields.find? p := by
  have others {l : List Field} (among : ∀ f ∈ l, f ∈ before.fields ++ fields) :
      (l.filter (·.visibility = .visible)).find? p = none := by
    refine List.find?_eq_none.2 fun f listed holds => ?_
    obtain ⟨listed, visible⟩ := List.mem_filter.1 listed
    exact avoids f (among f listed) (by simpa using visible) (named f holds)
  have listed : ((before.inherit inherited).declare methods fields).fields =
      before.fields ++ inherited.fields ++ fields := rfl
  rw [usableFields, usableFields, listed, List.filter_append, List.filter_append,
    List.find?_append, List.find?_append, others fun _ => List.mem_append_left _,
    others fun _ => List.mem_append_right _, Option.none_or, Option.or_none]

/-- Each route that avoids what is declared around leads to the member of the parent. -/
theorem attempt?_passes (taken : parent.TakenOver part inherited) {i j : Nat}
    (parts : ∀ object, object.typeIndex = i → (part object).typeIndex = j)
    (policy : OverloadPolicy) {route : Route}
    (avoids : route.Avoids name (before.methods ++ methods) (before.fields ++ fields)) :
    Option.Rel (Handle.Passes part i) (parent.attempt? policy (.declared j) name route)
      (((before.inherit inherited).declare methods fields).attempt? policy (.declared i) name
        route) := by
  have visible : List.Forall₂ (Field.Passes part) parent.usableFields inherited.usableFields :=
    filter_forall₂ taken.fields fun f f' passes => by rw [passes.visibility]
  cases route with
  | method called kinds kind =>
    have overloads : List.Forall₂ (Method.Passes part) (parent.overloads called kinds.length)
        (inherited.overloads called kinds.length) := by
      rw [overloads_eq, overloads_eq]
      refine filter_forall₂ taken.methods fun m m' passes => ?_
      rw [Method.isOverload, Method.isOverload, passes.visibility, passes.name, passes.params]
    rw [← overloads_inherit inherited fields kinds.length avoids] at overloads
    refine rel_map (select?_passes policy called kinds overloads) fun m m' passes => ?_
    rw [Handle.through, Handle.through, passes.name, passes.params]
    exact Handle.passes_of_body parts passes.body ..
  | read =>
    have found := find?_forall₂ (p := (·.name == name)) (q := (·.name == name)) visible
      fun f f' passes => by rw [passes.name]
    rw [← usableFields_inherit inherited methods (by simp) avoids] at found
    refine rel_map found fun f f' passes => ?_
    rw [Handle.reading, Handle.reading, passes.name]
    exact Handle.passes_of_body parts passes.read ..
  | write =>
    have found := find?_forall₂ (p := fun f => f.name == name && f.write?.isSome)
      (q := fun f => f.name == name && f.write?.isSome) visible fun f f' passes => by
        rw [passes.name, isSome_eq_of_rel passes.write?]
    have named (f : Field) (fits : (f.name == name && f.write?.isSome) = true) : f.name = name := by
      simp only [Bool.and_eq_true, beq_iff_eq] at fits
      exact fits.1
    rw [← usableFields_inherit inherited methods named avoids] at found
    refine rel_bind found fun f f' (passes : f.Passes part f') =>
      rel_map passes.write? fun body body' bodies => ?_
    rw [Handle.writing, Handle.writing, passes.name]
    exact Handle.passes_of_body parts bodies ..

end HostType

/-! ### Answers -/

/-- Answers to a use, on the part of an object and on the object: handles of one member, or none is
found on either type. -/
inductive AnswersPass (part : ObjectRef → ObjectRef) (place : Nat) (parent type : HostType)
    (name : String) (access : Access) :
    Except ResolveError Handle → Except ResolveError Handle → Prop where
  | found {h h' : Handle} (passes : h.Passes part place h') :
      AnswersPass part place parent type name access (.ok h) (.ok h')
  | notFound : AnswersPass part place parent type name access
      (.error (.notFound parent.name name access)) (.error (.notFound type.name name access))

theorem Handle.Passes.of_agrees {place : Nat} {h h' k k' : Handle} (passes : k.Passes part place k')
    (agrees : h.Agrees k) (agrees' : h'.Agrees k') : h.Passes part place h' := by
  refine ⟨?_, ?_, ?_, ?_, fun object arguments heap at_place => ?_⟩
  · rw [agrees.member, agrees'.member, passes.member]
  · rw [agrees.kind, agrees'.kind, passes.kind]
  · rw [agrees.params, agrees'.params, passes.params]
  · rw [agrees.boundName?, agrees'.boundName?, passes.boundName?]
  · rw [agrees.invoke, agrees'.invoke, passes.invoke object arguments heap at_place]

/-! ### Overriding -/

namespace HostType

/-- Whether a type has a public method with the name and the parameters of another method. -/
def overrides (type : HostType) (m : Method) : Bool :=
  type.methods.any fun own =>
    own.visibility = .visible && own.name == m.name && own.params == m.params

/-- The type without the methods that another type overrides. -/
def without (type other : HostType) : HostType :=
  { type with methods := type.methods.filter (!other.overrides ·) }

section

variable (before inherited : HostType) (methods : List Method) (fields : List Field)

/-- A search that goes by names and parameters finds nothing in an overridden method: it has found
the overriding one before. -/
theorem find?_overloads_without (called : String) (arity : Nat) {p : Method → Bool}
    (signature : ∀ m m' : Method, m.params = m'.params → p m = p m') :
    (((before.inherit inherited).declare methods fields).overloads called arity).find? p =
      (((before.inherit (inherited.without before)).declare methods fields).overloads called
        arity).find? p := by
  have listed : ((before.inherit inherited).declare methods fields).methods =
      before.methods ++ inherited.methods ++ methods := rfl
  have listed' : ((before.inherit (inherited.without before)).declare methods fields).methods =
      before.methods ++ inherited.methods.filter (!before.overrides ·) ++ methods := rfl
  rw [find?_overloads, find?_overloads, listed, listed']
  simp only [List.find?_append]
  -- Only when nothing is found before is it looked for among what is inherited.
  cases found : before.methods.find? fun m => m.isOverload called arity && p m with
  | some m => rfl
  | none =>
    have kept (m : Method) (fits : (m.isOverload called arity && p m) = true) :
        before.overrides m = false := by
      refine Bool.eq_false_iff.2 fun overridden => ?_
      obtain ⟨own, listed, twin⟩ := List.any_eq_true.1 overridden
      simp only [Bool.and_eq_true, decide_eq_true_eq, beq_iff_eq] at twin
      obtain ⟨⟨visible, name⟩, params⟩ := twin
      refine List.find?_eq_none.1 found own listed ?_
      simp only [Method.isOverload, Bool.and_eq_true, decide_eq_true_eq, beq_iff_eq] at fits ⊢
      rw [visible, name, params, signature own m params]
      exact ⟨⟨rfl, fits.1.2⟩, fits.2⟩
    rw [find?_filter_of_imp fun m fits => by rw [kept m fits, Bool.not_false]]

theorem select?_without :
    ((before.inherit inherited).declare methods fields).select? =
      ((before.inherit (inherited.without before)).declare methods fields).select? := by
  funext policy called kinds
  have exact := find?_overloads_without before inherited methods fields called kinds.length
    (p := (·.isExact kinds)) fun m m' params => by rw [Method.isExact, Method.isExact, params]
  have accepts := find?_overloads_without before inherited methods fields called kinds.length
    (p := (·.accepts kinds)) fun m m' params => by rw [Method.accepts, Method.accepts, params]
  cases policy with
  | firstCompatible => exact accepts
  | exactThenFirstCompatible => simp only [select?, exact, accepts]

end

end HostType

namespace ResolverOptions

/-- What is resolved on a type depends on its name, on what is selected and on its public fields. -/
theorem resolveOn_congr_select (options : ResolverOptions) {type type' : HostType}
    (name : type.name = type'.name) (select : type.select? = type'.select?)
    (fields : type.fields = type'.fields) :
    options.resolveOn type = options.resolveOn type' := by
  refine options.resolveOn_congr name ?_
  funext policy id member access
  cases access <;>
    simp only [HostType.find?, HostType.findGet?, HostType.findSet?, HostType.findCall?,
      HostType.usableFields, select, fields]

/-- A resolver depends on what is resolved on each type. -/
theorem resolver_set (options : ResolverOptions) {types : TypeTable} {i : Nat}
    {type type' : HostType} (declared : types[i]? = some type)
    (same : options.resolveOn type = options.resolveOn type') :
    options.resolver types = options.resolver (types.set i type') := by
  funext target name access cache
  unfold resolver
  cases target.receiver? with
  | none => rfl
  | some receiver =>
    cases receiver with
    | text s => rfl
    | object ref =>
      simp only [TypeTable.typeOf?, Option.bind_some, List.getElem?_set]
      by_cases place : i = ref.typeIndex
      · subst place
        obtain ⟨bound, element⟩ := List.getElem?_eq_some_iff.1 declared
        simp [bound, element, same]
      · simp [place]

variable {types : TypeTable} {before parent inherited : HostType} {methods : List Method}
  {fields : List Field} {i j : Nat}

/-- A use is answered on the part of an object as it is on the object, when no name that it looks for
is declared around what is inherited. -/
theorem answersPass_of_avoids (taken : parent.TakenOver part inherited)
    (parts : ∀ object, object.typeIndex = i → (part object).typeIndex = j)
    {policy : OverloadPolicy} {name : String} {access : Access}
    (avoids : ∀ route ∈ access.routes name,
      route.Avoids name (before.methods ++ methods) (before.fields ++ fields))
    {answer answer' : Except ResolveError Handle}
    (agree : AnswersAgree answer
      (resolveOn ⟨policy, false⟩ parent (.declared j) name access .empty).1)
    (agree' : AnswersAgree answer' (resolveOn ⟨policy, false⟩
      ((before.inherit inherited).declare methods fields) (.declared i) name access .empty).1) :
    AnswersPass part i parent ((before.inherit inherited).declare methods fields) name access
      answer answer' := by
  have related : Option.Rel (Handle.Passes part i)
      ((access.routes name).findSome? (parent.attempt? policy (.declared j) name))
      ((access.routes name).findSome? (HostType.attempt? _ policy (.declared i) name)) :=
    findSome?_rel fun route listed =>
      HostType.attempt?_passes taken parts policy (avoids route listed)
  rw [resolveOn_uncached] at agree agree'
  generalize (access.routes name).findSome? (parent.attempt? policy (.declared j) name) = h?
    at agree related
  generalize (access.routes name).findSome? (HostType.attempt? _ policy (.declared i) name) = h'?
    at agree' related
  cases related with
  | none =>
    cases agree
    cases agree'
    exact .notFound
  | some passes =>
    cases agree with
    | ok agrees =>
      cases agree' with
      | ok agrees' => exact .found (passes.of_agrees agrees agrees')

/-- Inheriting is conservative, and overriding works. A use that looks for no public name declared
around what is inherited is answered on an object as it is on its part: by the same member, with the
same effect on the part, or not at all. In no use does it matter whether a method that is overridden
in front of what is inherited is inherited too. -/
theorem inheritance_conservative (taken : parent.TakenOver part inherited)
    (derived : types[i]? = some ((before.inherit inherited).declare methods fields))
    (base : types[j]? = some parent)
    (parts : ∀ object, object.typeIndex = i → (part object).typeIndex = j) :
    (∀ policy caching caching' asked asked' object name access, object.typeIndex = i →
      (∀ route ∈ access.routes name,
        route.Avoids name (before.methods ++ methods) (before.fields ++ fields)) →
      AnswersPass part i parent ((before.inherit inherited).declare methods fields) name access
        (resolver ⟨policy, caching⟩ types (.object (part object)) name access
          (cacheAfter ⟨policy, caching⟩ types .empty asked)).1
        (resolver ⟨policy, caching'⟩ types (.object object) name access
          (cacheAfter ⟨policy, caching'⟩ types .empty asked')).1) ∧
    ∀ options : ResolverOptions, options.resolver types = options.resolver
      (types.set i ((before.inherit (inherited.without before)).declare methods fields)) := by
  constructor
  · intro policy caching caching' asked asked' object name access place avoids
    have base : types.typeOf? (.object (part object)) = some parent := by
      rw [TypeTable.typeOf?, parts object place, base]
    have receives (ref : ObjectRef) : (Value.object ref).receiver? = some (.object ref) := rfl
    have declared : types.typeOf? (.object object) = types[i]? := by rw [TypeTable.typeOf?, place]
    have agree := resolver_agrees_uncached ⟨policy, caching⟩ asked (receives (part object)) base name
      access
    have agree' := resolver_agrees_uncached ⟨policy, caching'⟩ asked' (receives object)
      (declared.trans derived) name access
    rw [Receiver.typeId, parts object place] at agree
    rw [Receiver.typeId, place] at agree'
    exact answersPass_of_avoids taken parts avoids agree agree'
  · intro options
    exact options.resolver_set derived
      (options.resolveOn_congr_select rfl (HostType.select?_without ..) rfl)

/-- A plain item, and a labelled one that has a plain item for a part. Both describe themselves. -/
def items (part : ObjectRef → ObjectRef) : TypeTable :=
  let plain := (HostType.named "Item" .visible).declare
    [⟨"describe", [], .visible, .const (.string "plain")⟩,
      ⟨"getId", [], .visible, .increment "id"⟩] []
  let labelled := (HostType.named "Labelled" .visible).declare
    [⟨"describe", [], .visible, .slot "label"⟩] []
  [plain, (labelled.inherit (plain.onPart part)).declare [] [.readOnly "label" "label"]]

/-- The label of an item has no say in its `id`, which is that of its part. -/
theorem inheritance_conservative_items :
    let part : ObjectRef → ObjectRef := fun ref => ⟨ref.id ++ "'", 0, "Item"⟩
    let plain := (items part).getD 0 .text
    let labelled := (HostType.named "Labelled" .visible).declare
      [⟨"describe", [], .visible, .slot "label"⟩] []
    let label := [Field.readOnly "label" "label"]
    let item : ObjectRef := ⟨"a", 1, "Labelled"⟩
    let answer (ref : ObjectRef) :=
      (resolver ⟨.firstCompatible, true⟩ (items part) (.object ref) "id" .get .empty).1
    let options : ResolverOptions := ⟨.firstCompatible, true⟩
    (plain.TakenOver part (plain.onPart part) ∧
      (items part)[1]? = some ((labelled.inherit (plain.onPart part)).declare [] label) ∧
      (items part)[0]? = some plain ∧
      (∀ object, object.typeIndex = 1 → (part object).typeIndex = 0) ∧
      item.typeIndex = 1 ∧ ∀ route ∈ Access.get.routes "id",
        route.Avoids "id" (labelled.methods ++ []) (labelled.fields ++ label)) ∧
    AnswersPass part 1 plain ((labelled.inherit (plain.onPart part)).declare [] label) "id" .get
      (answer (part item)) (answer item) ∧
    options.resolver (items part) = options.resolver ((items part).set 1
      ((labelled.inherit ((plain.onPart part).without labelled)).declare [] label)) := by
  intro part plain labelled label item answer options
  have taken : plain.TakenOver part (plain.onPart part) := .passed
  have derived : (items part)[1]? =
      some ((labelled.inherit (plain.onPart part)).declare [] label) := rfl
  have avoids : ∀ route ∈ Access.get.routes "id",
      route.Avoids "id" (labelled.methods ++ []) (labelled.fields ++ label) := by
    have method (called : String) (other : "describe" ≠ called) : ∀ m ∈ labelled.methods ++ [],
        m.visibility = .visible → m.name ≠ called :=
      List.forall_mem_singleton.2 fun _ => other
    have field : ∀ f ∈ labelled.fields ++ label, f.visibility = .visible → f.name ≠ "id" :=
      List.forall_mem_singleton.2 fun _ => by decide
    exact List.forall_mem_cons.2 ⟨method _ (by decide), List.forall_mem_cons.2
      ⟨method _ (by decide), List.forall_mem_cons.2 ⟨field, List.forall_mem_singleton.2
        (method _ (by decide))⟩⟩⟩
  obtain ⟨conservative, overriding⟩ :=
    inheritance_conservative taken derived rfl fun _ _ => rfl
  exact ⟨⟨taken, derived, rfl, fun _ _ => rfl, rfl, avoids⟩,
    conservative .firstCompatible true true [] [] item "id" .get rfl avoids, overriding options⟩

end ResolverOptions

end ExprScript
