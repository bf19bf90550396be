import ExprScript.Engine
import ExprScript.Proofs.Host.Inheritance
import ExprScript.Proofs.Host.Territory

/-!
# Writing a field and reading it

A property is written through the first public field of its name that can be written and read through
the first public one. A read-only field in front of the one written hides it from readers. Without
one, what was written is read back, be the field declared or inherited.
-/

namespace ExprScript

/-- What the writer of a field was given is what its reader gives next. -/
def Field.KeepsWrites (f : Field) : Prop :=
  ∀ write ∈ f.write?, ∀ ref v heap result heap',
    write.runOnObject ref [v] heap = (.ok result, heap') →
      (f.read.runOnObject ref [] heap').1 = .ok v

/-- How a type is declared, step by step, when the fields of all its ancestors keep what is written
to them. -/
inductive HostType.Retentive : HostType → Prop where
  | named (name : String) (visibility : Visibility) : Retentive (.named name visibility)
  | method {type : HostType} (before : Retentive type) (m : Method) : Retentive (type.addMethod m)
  | field {type : HostType} (before : Retentive type) (f : Field) (keeps : f.KeepsWrites) :
    Retentive (type.addField f)
  | inherits {type parent inherited : HostType} {part : ObjectRef → ObjectRef}
    (before : Retentive type) (origin : Retentive parent) (taken : parent.TakenOver part inherited) :
    Retentive (type.inherit inherited)

/-- The field that a property of a name is read through, if no method reads it. -/
def HostType.readField? (type : HostType) (name : String) : Option Field :=
  type.usableFields.find? (·.name == name)

namespace Field

theorem keepsWrites_readOnly (name slot : String) : (readOnly name slot).KeepsWrites := nofun

theorem keepsWrites_writable (name slot : String) : (writable name slot).KeepsWrites := by
  rintro write ⟨⟩ ref v heap result heap' ⟨⟩
  simp [writable, Body.runOnObject, Heap.read_write]

/-- A field that is passed on to a part keeps what is written to it there. -/
theorem KeepsWrites.passes {part : ObjectRef → ObjectRef} {f f' : Field} (keeps : f.KeepsWrites)
    (passes : f.Passes part f') : f'.KeepsWrites := by
  intro write' writable' ref v heap result heap' written
  have related := passes.write?
  rw [Option.mem_def.1 writable'] at related
  cases writable : f.write? with
  | none =>
    rw [writable] at related
    cases related
  | some write =>
    rw [writable] at related
    cases related with
    | some same =>
      rw [passes.read]
      exact keeps write writable _ v heap result heap' ((same ref [v] heap).symm.trans written)

theorem keepsWrites_of_forall₂ {part : ObjectRef → ObjectRef} {fields inherited : List Field}
    (related : List.Forall₂ (Field.Passes part) fields inherited)
    (keep : ∀ f ∈ fields, f.KeepsWrites) : ∀ f ∈ inherited, f.KeepsWrites := by
  induction related with
  | nil => exact fun _ listed => absurd listed List.not_mem_nil
  | cons passes _ ih =>
    rw [List.forall_mem_cons] at keep ⊢
    exact ⟨keep.1.passes passes, ih keep.2⟩

end Field

theorem HostType.Retentive.keepsWrites {type : HostType} (retentive : type.Retentive) :
    ∀ f ∈ type.fields, f.KeepsWrites := by
  induction retentive with
  | named => exact fun _ listed => absurd listed List.not_mem_nil
  | method before m ih => exact ih
  | field before f keeps ih =>
    intro g listed
    rcases List.mem_append.1 listed with own | new
    · exact ih g own
    · rwa [List.mem_singleton.1 new]
  | inherits before origin taken ih ih_origin =>
    intro g listed
    rcases List.mem_append.1 listed with own | inherited
    · exact ih g own
    · exact Field.keepsWrites_of_forall₂ taken.fields ih_origin g inherited

namespace HostType.Decides

variable {type : HostType} {id : TypeId} {name : String} {kind : ValueKind} {h : Handle}

/-- Only fields are read without a method. -/
theorem readField? (decides : type.Decides id name .get (.ok h)) (through : h.kind = .fieldGet) :
    ∃ f, type.readField? name = some f ∧ h.Agrees (.reading id f) := by
  cases decides with
  | @found _ _ route _ _ order candidate agrees _ =>
    have listed : route ∈ Access.routes name .get := by simp [order]
    rw [agrees.kind] at through
    cases candidate with
    | read place visible named first =>
      refine ⟨_, find?_usableFields.2 ⟨visible, by simp [named], _, _, place, ?_⟩, agrees⟩
      simpa using first
    | write => cases through
    | method kind usable =>
      cases through
      simp [Access.routes] at listed

/-- Only fields are written without a method. -/
theorem writeField? (decides : type.Decides id name (.set kind) (.ok h))
    (through : h.kind = .fieldSet) :
    ∃ f write, type.usableFields.find? (fun f => f.name == name && f.write?.isSome) = some f ∧
      f.write? = some write ∧ h.Agrees (.writing id f write) := by
  cases decides with
  | @found _ _ route _ _ order candidate agrees _ =>
    have listed : route ∈ Access.routes name (.set kind) := by simp [order]
    rw [agrees.kind] at through
    cases candidate with
    | write place visible named writable first =>
      refine ⟨_, _, find?_usableFields.2 ⟨visible, by simp [named, writable], _, _, place, ?_⟩,
        writable, agrees⟩
      simpa using first
    | read => cases through
    | method kind usable =>
      cases through
      simp [Access.routes] at listed

end HostType.Decides

/-- The writable field in front of the others, read first, is the one written. -/
theorem HostType.readField?_of_written {type : HostType} {name : String} {f g : Field}
    (read : type.readField? name = some f) (writable : f.write?.isSome)
    (written : type.usableFields.find? (fun f => f.name == name && f.write?.isSome) = some g) :
    f = g := by
  obtain ⟨named, before, after, place, first⟩ := List.find?_eq_some_iff_append.1 read
  have found : type.usableFields.find? (fun f => f.name == name && f.write?.isSome) = some f := by
    refine List.find?_eq_some_iff_append.2 ⟨by simp_all, before, after, place, fun g listed => ?_⟩
    have other := first g listed
    simp_all
  exact Option.some.inj (found.symm.trans written)

namespace ResolverOptions

/-- What is found on the type of an object is decided by the routes, whatever is kept soundly. -/
theorem decides_of_sound (options : ResolverOptions) {types : TypeTable} {cache : Cache}
    (sound : cache.Sound options.policy types) {ref : ObjectRef} {type : HostType}
    (declared : types[ref.typeIndex]? = some type) (name : String) (access : Access) :
    type.Decides (.declared ref.typeIndex) name access
      (options.resolver types (.object ref) name access cache).1 := by
  have agree : AnswersAgree (options.resolver types (.object ref) name access cache).1 _ :=
    (options.resolver_sound sound).1
  refine decides_uncached options.policy type (.declared ref.typeIndex) name access .empty ?_
  simpa [resolver, Value.receiver?, TypeTable.typeOf?, declared, Receiver.typeId] using agree

end ResolverOptions

namespace Handle.Agrees

variable {h : Handle} {f : Field} {ref : ObjectRef}

theorem invoke_reading (agrees : h.Agrees (.reading (.declared ref.typeIndex) f)) (heap : Heap) :
    h.invoke (.object ref) [] heap = f.read.runOnObject ref [] heap := by
  rw [agrees.invoke]
  simp [Handle.invoke, reading, passed, Receiver.typeId, Body.run]

theorem invoke_writing {write : Body}
    (agrees : h.Agrees (.writing (.declared ref.typeIndex) f write)) (v : Value) (heap : Heap) :
    h.invoke (.object ref) [v] heap = write.runOnObject ref [v] heap := by
  rw [agrees.invoke]
  simp [Handle.invoke, writing, passed, Receiver.typeId, Body.run, ParamType.coerce]

end Handle.Agrees

namespace Setting

variable {setting : Setting} {ref : ObjectRef} {name : String} {v r : Value} {h : Handle}
  {s s' : State} {span : Span}

/-- A successful write through a handle ran it without an error and gives the value written. -/
theorem write_object
    (found : (setting.resolve (.object ref) name (.set v.kind) s.world.cache).1 = .ok h)
    (written : setting.write span (.object ref) name v s = (.value r, s')) :
    ∃ result, h.invoke (.object ref) [v] s.world.heap = (.ok result, s'.world.heap) ∧
      s'.world.cache = (setting.resolve (.object ref) name (.set v.kind) s.world.cache).2 := by
  simp only [write, Bind.bind, Eval.attemptOn, Resolver.useMember_of_found rfl found] at written
  cases outcome : h.invoke (.object ref) [v] s.world.heap with
  | mk result heap =>
    rw [outcome] at written
    cases result with
    | error e => cases written
    | ok result =>
      cases written
      exact ⟨result, rfl, rfl⟩

theorem read_object (found : (setting.resolve (.object ref) name .get s.world.cache).1 = .ok h)
    (gives : (h.invoke (.object ref) [] s.world.heap).1 = .ok v) :
    (setting.read span (.object ref) name s).1 = .value v := by
  simp only [read, Eval.attemptOn, Resolver.useMember_of_found rfl found, gives]
  rfl

end Setting

/-- A property that is written through a field is read back through a field, unless the field that it
is read through is read-only; this is so whatever was asked for before. -/
theorem written_field_reads_back (options : Options) (types : TypeTable) (rounds : Nat)
    {ref : ObjectRef} {type : HostType} (declared : types[ref.typeIndex]? = some type)
    (retentive : type.Retentive) (asked : List (Value × String × Access)) {s s' : State}
    (cache : s.world.cache =
      ResolverOptions.cacheAfter ⟨options.policy, options.caching⟩ types .empty asked)
    {name : String} {v r : Value} {span span' : Span} {written read : Handle} :
    let setting := (Engine.ofTypes options types rounds).setting
    setting.write span (.object ref) name v s = (.value r, s') →
    (setting.resolve (.object ref) name (.set v.kind) s.world.cache).1 = .ok written →
    written.kind = .fieldSet →
    (setting.resolve (.object ref) name .get s'.world.cache).1 = .ok read →
    read.kind = .fieldGet →
    (∀ f ∈ type.readField? name, f.write?.isSome) →
    (setting.read span' (.object ref) name s').1 = .value v := by
  intro setting writes found_writer through_writer found_reader through_reader writable
  have sound : s.world.cache.Sound options.policy types := by
    rw [cache]
    exact ResolverOptions.sound_cacheAfter ⟨options.policy, options.caching⟩ asked Cache.sound_empty
  obtain ⟨result, ran, keeps⟩ := setting.write_object found_writer writes
  have sound' : s'.world.cache.Sound options.policy types := by
    rw [keeps]
    exact (ResolverOptions.resolver_sound ⟨options.policy, options.caching⟩ sound).2
  have decides_writer := ResolverOptions.decides_of_sound ⟨options.policy, options.caching⟩ sound
    declared name (.set v.kind)
  have decides_reader := ResolverOptions.decides_of_sound ⟨options.policy, options.caching⟩ sound'
    declared name .get
  rw [show ResolverOptions.resolver ⟨options.policy, options.caching⟩ types = setting.resolve from rfl]
    at decides_writer decides_reader
  rw [found_writer] at decides_writer
  rw [found_reader] at decides_reader
  obtain ⟨g, body, first_writable, has_body, agrees_writer⟩ :=
    decides_writer.writeField? through_writer
  obtain ⟨f, first, agrees_reader⟩ := decides_reader.readField? through_reader
  obtain rfl := HostType.readField?_of_written first (writable f first) first_writable
  have listed : f ∈ type.fields :=
    (List.mem_filter.1 (List.mem_of_find?_eq_some first)).1
  rw [agrees_writer.invoke_writing] at ran
  refine setting.read_object found_reader ?_
  rw [agrees_reader.invoke_reading]
  exact retentive.keepsWrites f listed body has_body ref v s.world.heap result s'.world.heap ran

/-- A counter, and a gauge with a hidden field in front of the field that it inherits. -/
def counters : TypeTable :=
  let counter := (HostType.named "Counter" .visible).addField (.writable "count" "n")
  [counter, ((HostType.named "Gauge" .visible).addField (.hidden "count" "m")).inherit counter]

/-- An inherited field is read back behind a hidden one. -/
theorem written_field_reads_back_counters :
    let setting := (Engine.ofTypes {} counters 0).setting
    let gauge : ObjectRef := ⟨"g", 1, "Gauge"⟩
    let type := counters.getD 1 .text
    let field : Field := .writable "count" "n"
    let writer : Handle := { Handle.writing (.declared 1) field (.store "n" 0) with
      key? := some ⟨.declared 1, "count", .set .integer⟩ }
    let reader : Handle := { Handle.reading (.declared 1) field with
      key? := some ⟨.declared 1, "count", .get⟩ }
    let s : State := ⟨.empty, ⟨.empty, .empty⟩⟩
    let s' : State := ⟨.empty,
      ⟨Heap.write .empty "g" "n" (.integer 3), .ofList [(⟨.declared 1, "count", .set .integer⟩, writer)]⟩⟩
    type.Retentive ∧ setting.write .nowhere (.object gauge) "count" (.integer 3) s =
        (.value (.integer 3), s') ∧
      (setting.resolve (.object gauge) "count" (.set .integer) s.world.cache).1 = .ok writer ∧
      (setting.resolve (.object gauge) "count" .get s'.world.cache).1 = .ok reader ∧
      (∀ f ∈ type.readField? "count", f.write?.isSome) ∧
      (setting.read .nowhere (.object gauge) "count" s').1 = .value (.integer 3) := by
  intro setting gauge type field writer reader s s'
  have counter : ((HostType.named "Counter" .visible).addField field).Retentive :=
    .field (.named "Counter" .visible) field (Field.keepsWrites_writable "count" "n")
  have plain : ((HostType.named "Counter" .visible).addField field).Plain :=
    ⟨by decide, by decide, by decide⟩
  have taken : HostType.TakenOver ((HostType.named "Counter" .visible).addField field) id _ :=
    .shared plain fun ref => by simp [ObjectRef.same]
  have retentive : type.Retentive :=
    .inherits (.field (.named "Gauge" .visible) (.hidden "count" "m") nofun) counter taken
  have writes : setting.write .nowhere (.object gauge) "count" (.integer 3) s =
      (.value (.integer 3), s') := rfl
  have writable : ∀ f ∈ type.readField? "count", f.write?.isSome := by
    rintro f ⟨⟩
    rfl
  have found_writer :
      (setting.resolve (.object gauge) "count" (.set .integer) s.world.cache).1 = .ok writer := rfl
  have found_reader :
      (setting.resolve (.object gauge) "count" .get s'.world.cache).1 = .ok reader := rfl
  exact ⟨retentive, writes, found_writer, found_reader, writable,
    written_field_reads_back {} counters 0 rfl retentive [] rfl writes found_writer rfl found_reader
      rfl writable⟩

/-- A read-only field in front of a writable one of the same name is read instead of it. -/
theorem read_only_field_hides_written :
    let type := ((HostType.named "Counter" .visible).addField (.readOnly "count" "a")).addField
      (.writable "count" "b")
    let setting := (Engine.ofTypes {} [type] 0).setting
    let counter : Value := .object ⟨"c", 0, "Counter"⟩
    let s : State := ⟨.empty, ⟨.empty, .empty⟩⟩
    let s' := (setting.write .nowhere counter "count" (.integer 1) s).2
    type.Retentive ∧
      setting.write .nowhere counter "count" (.integer 1) s = (.value (.integer 1), s') ∧
      (setting.resolve counter "count" (.set .integer) s.world.cache).1.map Handle.kind =
        .ok .fieldSet ∧
      (setting.resolve counter "count" .get s'.world.cache).1.map Handle.kind = .ok .fieldGet ∧
      (setting.read .nowhere counter "count" s').1 = .value .null := by
  intro type setting counter s s'
  have retentive : type.Retentive :=
    .field (.field (.named "Counter" .visible) _ (Field.keepsWrites_readOnly "count" "a")) _
      (Field.keepsWrites_writable "count" "b")
  exact ⟨retentive, rfl, rfl, rfl, rfl⟩

end ExprScript
