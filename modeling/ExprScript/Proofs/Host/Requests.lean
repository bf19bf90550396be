import Mathlib.Data.List.Perm.Subperm
import ExprScript.Proofs.Host.Keys

/-!
# What requests leave in the cache

A request that is answered keeps one handle, under a key that neither the requests before it nor
what is kept already have a say in. So the contents of the cache are known from the set of the
requests that were made.
-/

namespace ExprScript

/-! ### Keys of tables -/

namespace Table

variable {κ ν : Type} [DecidableEq κ]

theorem contains_iff_mem (t : Table κ ν) (key : κ) :
    t.contains key = true ↔ key ∈ t.entries.map Prod.fst := by
  simp [contains, get?, List.lookup_isSome_iff, List.mem_map]

/-- A table whose keys are among those of another and some more has no more entries than these. -/
theorem size_le_of_contains {t t' : Table κ ν} (extra : List κ)
    (h : ∀ key, t'.contains key = true → t.contains key = true ∨ key ∈ extra) :
    t'.size ≤ t.size + extra.length := by
  have among : t'.entries.map Prod.fst ⊆ t.entries.map Prod.fst ++ extra := by
    intro key listed
    rcases h key ((t'.contains_iff_mem key).2 listed) with present | more
    · exact List.mem_append_left _ ((t.contains_iff_mem key).1 present)
    · exact List.mem_append_right _ more
  simpa [size] using (t'.distinct.subperm among).length_le

theorem size_eq_of_contains {t t' : Table κ ν}
    (h : ∀ key, t'.contains key = true ↔ t.contains key = true) : t'.size = t.size :=
  Nat.le_antisymm (size_le_of_contains [] fun key present => .inl ((h key).1 present))
    (size_le_of_contains [] fun key present => .inl ((h key).2 present))

end Table

/-- The key that a handle found for a request is kept under: that of the use asked for or, when the
handle passes the name of the property in front, that of a call of its method. -/
def Handle.keptUnder (h : Handle) (id : TypeId) (name : String) (access : Access) : MemberKey :=
  if h.kind.bindsName then
    match access with
    | .get => ⟨id, "get", .call [.string]⟩
    | .set kind => ⟨id, "set", .call [.string, kind]⟩
    | .call _ => ⟨id, name, access⟩
  else ⟨id, name, access⟩

variable {types : TypeTable} {policy : OverloadPolicy} {cache cache' : Cache}

/-- No name is bound to what is found without the name of a property. -/
theorem HostType.find?_free {type : HostType} {id : TypeId} {name : String} {access : Access}
    {h : Handle} (found : type.find? policy id name access = some h) :
    h.kind.bindsName = false ∧ h.boundName? = none := by
  cases access with
  | get =>
    rcases Option.or_eq_some_iff.1 found with getter | ⟨-, field⟩
    · rcases Option.or_eq_some_iff.1 getter with getter | ⟨-, getter⟩
      · obtain ⟨m, -, rfl⟩ := Option.map_eq_some_iff.1 getter
        exact ⟨rfl, rfl⟩
      · obtain ⟨m, -, rfl⟩ := Option.map_eq_some_iff.1 getter
        exact ⟨rfl, rfl⟩
    · obtain ⟨f, -, rfl⟩ := Option.map_eq_some_iff.1 field
      exact ⟨rfl, rfl⟩
  | set kind =>
    rcases Option.or_eq_some_iff.1 found with setter | ⟨-, field⟩
    · obtain ⟨m, -, rfl⟩ := Option.map_eq_some_iff.1 setter
      exact ⟨rfl, rfl⟩
    · obtain ⟨write, -, rfl⟩ := Option.map_eq_some_iff.1 field
      exact ⟨rfl, rfl⟩
  | call kinds =>
    obtain ⟨m, -, rfl⟩ := Option.map_eq_some_iff.1 found
    exact ⟨rfl, rfl⟩

namespace ResolverOptions

variable {target : Value} {name : String} {access : Access} {h : Handle}

/-! ### One request -/

/-- What an answer tells of the key that its handle is kept under. -/
inductive Keeps (types : TypeTable) (policy : OverloadPolicy) (target : Value) (name : String)
    (access : Access) : Except ResolveError Handle → Prop where
  | error {e} : keptKey? ⟨policy, true⟩ types target name access = none →
    Keeps types policy target name access (.error e)
  | member {h r} : target.receiver? = some r → h.kind.bindsName = false →
    keptKey? ⟨policy, true⟩ types target name access = some ⟨r.typeId, name, access⟩ →
    Keeps types policy target name access (.ok h)
  | property {h r method kinds} : target.receiver? = some r →
    duckCall? access = some (method, kinds, h.kind) →
    keptKey? ⟨policy, true⟩ types target name access = some ⟨r.typeId, method, .call kinds⟩ →
    Keeps types policy target name access (.ok h)

theorem keeps_uncached (policy : OverloadPolicy) (types : TypeTable) (target : Value)
    (name : String) (access : Access) :
    Keeps types policy target name access
      (resolver ⟨policy, false⟩ types target name access .empty).1 := by
  unfold resolver
  cases place : target.receiver?.bind fun r => (types.typeOf? r).map (r.typeId, ·) with
  | none => exact .error (by simp [keptKey?, place])
  | some found =>
    obtain ⟨r, receives, found⟩ := Option.bind_eq_some_iff.1 place
    obtain ⟨type, -, rfl⟩ := Option.map_eq_some_iff.1 found
    have key : keptKey? ⟨policy, true⟩ types target name access =
        type.answerKey? policy r.typeId name access := by
      simp [keptKey?, place]
    cases finds : type.find? policy r.typeId name access with
    | some h =>
      simp only [resolveOn, kept?, keep, finds, Bool.false_eq_true, if_false]
      exact .member receives (HostType.find?_free finds).1
        (by simp [key, HostType.answerKey?, finds])
    | none =>
      simp only [resolveOn, resolveDuck, kept?, keep, finds, Bool.false_eq_true, if_false]
      cases duck : duckCall? access with
      | none => exact .error (by simp [key, HostType.answerKey?, finds, duck])
      | some call =>
        obtain ⟨method, kinds, kind⟩ := call
        dsimp only
        cases answers : type.findCall? policy r.typeId method kinds with
        | none => exact .error (by simp [key, HostType.answerKey?, finds, duck, answers])
        | some h =>
          exact .property receives duck (by simp [key, HostType.answerKey?, finds, duck, answers])

/-- Whatever is kept already, an answer tells of the key that its handle is kept under. -/
theorem keeps_resolver (sound : cache.Sound policy types) (target : Value) (name : String)
    (access : Access) :
    Keeps types policy target name access
      (resolver ⟨policy, true⟩ types target name access cache).1 := by
  have keeps := keeps_uncached policy types target name access
  have agree : AnswersAgree (resolver ⟨policy, true⟩ types target name access cache).1 _ :=
    (resolver_sound ⟨policy, true⟩ sound).1
  generalize (resolver ⟨policy, true⟩ types target name access cache).1 = answer at agree ⊢
  generalize (resolver ⟨policy, false⟩ types target name access .empty).1 = fresh at agree keeps
  cases agree with
  | error e =>
    cases keeps with
    | error key => exact .error key
  | ok agrees =>
    cases keeps with
    | member receives free key => exact .member receives (agrees.kind ▸ free) key
    | property receives duck key => exact .property receives (agrees.kind ▸ duck) key

theorem bindsName_of_duckCall? {method : String} {kinds : List ValueKind} {kind : HandleKind}
    (duck : duckCall? access = some (method, kinds, kind)) : kind.bindsName = true := by
  cases access <;> cases duck <;> rfl

/-- A handle that is found is kept under its key. -/
theorem Keeps.keptKey? (keeps : Keeps types policy target name access (.ok h)) :
    ∃ r, target.receiver? = some r ∧
      ResolverOptions.keptKey? ⟨policy, true⟩ types target name access =
        some (h.keptUnder r.typeId name access) := by
  cases keeps with
  | @member _ r receives free key => exact ⟨r, receives, by simp [key, Handle.keptUnder, free]⟩
  | @property _ r method kinds receives duck key =>
    refine ⟨r, receives, key.trans (congrArg some ?_)⟩
    have binds := bindsName_of_duckCall? duck
    cases access with
    | get =>
      obtain ⟨rfl, rfl, -⟩ : "get" = method ∧ [ValueKind.string] = kinds ∧ _ := by
        simpa [duckCall?] using duck
      simp [Handle.keptUnder, binds]
    | set kind =>
      obtain ⟨rfl, rfl, -⟩ : "set" = method ∧ [ValueKind.string, kind] = kinds ∧ _ := by
        simpa [duckCall?] using duck
      simp [Handle.keptUnder, binds]
    | call kinds => simp [duckCall?] at duck

/-- A request leaves the cache as it is when the key of its answer, if it has one, is kept. -/
theorem resolver_cache_eq
    (kept : ∀ key, keptKey? ⟨policy, true⟩ types target name access = some key →
      cache.contains key = true) :
    (resolver ⟨policy, true⟩ types target name access cache).2 = cache := by
  unfold resolver
  cases place : target.receiver?.bind fun r => (types.typeOf? r).map (r.typeId, ·) with
  | none => rfl
  | some found =>
    obtain ⟨r, -, found⟩ := Option.bind_eq_some_iff.1 place
    obtain ⟨type, -, rfl⟩ := Option.map_eq_some_iff.1 found
    have known (key : MemberKey) (answer : type.answerKey? policy r.typeId name access = some key) :
        ∃ h, cache.get? key = some h :=
      Option.isSome_iff_exists.1 (kept key (by simp [keptKey?, place, answer]))
    simp only [resolveOn, kept?, if_true]
    cases here : cache.get? ⟨r.typeId, name, access⟩ with
    | some h => rfl
    | none =>
      cases finds : type.find? policy r.typeId name access with
      | some h =>
        obtain ⟨h', found⟩ := known ⟨r.typeId, name, access⟩ (by simp [HostType.answerKey?, finds])
        rw [here] at found
        cases found
      | none =>
        simp only [resolveDuck, kept?, if_true]
        cases duck : duckCall? access with
        | none => rfl
        | some call =>
          obtain ⟨method, kinds, kind⟩ := call
          dsimp only
          cases there : cache.get? ⟨r.typeId, method, .call kinds⟩ with
          | some h => rfl
          | none =>
            dsimp only
            cases answers : type.findCall? policy r.typeId method kinds with
            | none => rfl
            | some h =>
              obtain ⟨h', found⟩ := known ⟨r.typeId, method, .call kinds⟩
                (by simp [HostType.answerKey?, finds, duck, answers])
              rw [there] at found
              cases found

/-! ### Requests in a row -/

variable {asked more : List (Value × String × Access)}

theorem cacheAfter_append (options : ResolverOptions) (types : TypeTable) (cache : Cache)
    (asked more : List (Value × String × Access)) :
    options.cacheAfter types cache (asked ++ more) =
      options.cacheAfter types (options.cacheAfter types cache asked) more := by
  induction asked generalizing cache with
  | nil => rfl
  | cons request asked ih => exact ih _

/-- After requests the keys are those before and the ones that the requests are answered under. -/
theorem contains_cacheAfter (sound : cache.Sound policy types)
    (asked : List (Value × String × Access)) (key : MemberKey) :
    (cacheAfter ⟨policy, true⟩ types cache asked).contains key = true ↔
      cache.contains key = true ∨ ∃ target name access, (target, name, access) ∈ asked ∧
        keptKey? ⟨policy, true⟩ types target name access = some key := by
  induction asked generalizing cache with
  | nil => simp [cacheAfter]
  | cons request asked ih =>
    obtain ⟨target, name, access⟩ := request
    rw [cacheAfter, ih (resolver_sound ⟨policy, true⟩ sound).2,
      contains_resolver ⟨policy, true⟩ sound]
    constructor
    · rintro ((before | here) | ⟨target', name', access', listed, later⟩)
      · exact .inl before
      · exact .inr ⟨target, name, access, List.mem_cons_self, here⟩
      · exact .inr ⟨target', name', access', List.mem_cons_of_mem _ listed, later⟩
    · rintro (before | ⟨target', name', access', listed, key⟩)
      · exact .inl (.inl before)
      · rcases List.mem_cons.1 listed with same | listed
        · cases same
          exact .inl (.inr key)
        · exact .inr ⟨target', name', access', listed, key⟩

/-- Among requests that are made in a row, one is answered with a handle. -/
def Answers (policy : OverloadPolicy) (types : TypeTable) (cache : Cache)
    (asked : List (Value × String × Access)) (target : Value) (name : String) (access : Access)
    (h : Handle) : Prop :=
  ∃ before after, asked = before ++ (target, name, access) :: after ∧
    (resolver ⟨policy, true⟩ types target name access
      (cacheAfter ⟨policy, true⟩ types cache before)).1 = .ok h

theorem Answers.keptKey? (sound : cache.Sound policy types)
    (answers : Answers policy types cache asked target name access h) :
    (target, name, access) ∈ asked ∧ ∃ r, target.receiver? = some r ∧
      ResolverOptions.keptKey? ⟨policy, true⟩ types target name access =
        some (h.keptUnder r.typeId name access) := by
  obtain ⟨before, after, rfl, answer⟩ := answers
  have keeps := keeps_resolver (sound_cacheAfter ⟨policy, true⟩ before sound) target name access
  rw [answer] at keeps
  exact ⟨by simp, keeps.keptKey?⟩

/-- A request that has a key is answered with a handle that is kept under it. -/
theorem exists_answers (sound : cache.Sound policy types) (listed : (target, name, access) ∈ asked)
    {key : MemberKey} (kept : keptKey? ⟨policy, true⟩ types target name access = some key) :
    ∃ h r, Answers policy types cache asked target name access h ∧
      target.receiver? = some r ∧ h.keptUnder r.typeId name access = key := by
  obtain ⟨before, after, rfl⟩ := List.append_of_mem listed
  have keeps := keeps_resolver (sound_cacheAfter ⟨policy, true⟩ before sound) target name access
  cases answer : (resolver ⟨policy, true⟩ types target name access
      (cacheAfter ⟨policy, true⟩ types cache before)).1 with
  | error e =>
    rw [answer] at keeps
    obtain ⟨none⟩ := keeps
    rw [none] at kept
    cases kept
  | ok h =>
    rw [answer] at keeps
    obtain ⟨r, receives, here⟩ := keeps.keptKey?
    exact ⟨h, r, ⟨before, after, rfl, answer⟩, receives, Option.some.inj (here.symm.trans kept)⟩

/-- The keys after requests are those before and one for each request that is answered. -/
theorem contains_cacheAfter_answers (sound : cache.Sound policy types)
    (asked : List (Value × String × Access)) (key : MemberKey) :
    (cacheAfter ⟨policy, true⟩ types cache asked).contains key = true ↔
      cache.contains key = true ∨ ∃ target name access h r,
        Answers policy types cache asked target name access h ∧ target.receiver? = some r ∧
          h.keptUnder r.typeId name access = key := by
  rw [contains_cacheAfter sound]
  refine or_congr_right ⟨?_, ?_⟩
  · rintro ⟨target, name, access, listed, kept⟩
    exact ⟨target, name, access, exists_answers sound listed kept⟩
  · rintro ⟨target, name, access, h, r, answers, receives, rfl⟩
    obtain ⟨listed, r', receives', kept⟩ := answers.keptKey? sound
    obtain rfl : r = r' := Option.some.inj (receives.symm.trans receives')
    exact ⟨target, name, access, listed, kept⟩

/-- The key of a property that is used by a method that takes its name is that of a call of this
method, whatever the name. -/
theorem Answers.method_keptKey? (sound : cache.Sound policy types)
    (answers : Answers policy types cache asked target name access h)
    (binds : h.kind.bindsName = true) :
    ∃ r method kinds, target.receiver? = some r ∧
      duckCall? access = some (method, kinds, h.kind) ∧
      ResolverOptions.keptKey? ⟨policy, true⟩ types target name access =
        some ⟨r.typeId, method, .call kinds⟩ := by
  obtain ⟨before, after, rfl, answer⟩ := answers
  have keeps := keeps_resolver (sound_cacheAfter ⟨policy, true⟩ before sound) target name access
  rw [answer] at keeps
  cases keeps with
  | member receives free key =>
    rw [free] at binds
    cases binds
  | property receives duck key => exact ⟨_, _, _, receives, duck, key⟩

/-- Uses of properties by methods that take the name add one key at most for each type and each kind
of use, whatever the names. -/
theorem size_cacheAfter_le (sound : cache.Sound policy types) (uses : List (TypeId × Access))
    (named : ∀ target name access h r, Answers policy types cache asked target name access h →
      target.receiver? = some r → h.kind.bindsName = true ∧ (r.typeId, access) ∈ uses) :
    (cacheAfter ⟨policy, true⟩ types cache asked).size ≤ cache.size + uses.length := by
  let methods : List MemberKey := uses.filterMap fun use =>
    (duckCall? use.2).map fun call => ⟨use.1, call.1, .call call.2.1⟩
  have few : methods.length ≤ uses.length := List.length_filterMap_le _ _
  have bound :
      (cacheAfter ⟨policy, true⟩ types cache asked).size ≤ cache.size + methods.length := by
    refine Table.size_le_of_contains methods fun key present => ?_
    rcases (contains_cacheAfter sound asked key).1 present with before | later
    · exact .inl before
    · obtain ⟨target, name, access, listed, kept⟩ := later
      obtain ⟨h, r, answers, receives, -⟩ := exists_answers sound listed kept
      obtain ⟨binds, used⟩ := named target name access h r answers receives
      obtain ⟨r', method, kinds, receives', duck, here⟩ := answers.method_keptKey? sound binds
      obtain rfl : r = r' := Option.some.inj (receives.symm.trans receives')
      obtain rfl : _ = key := Option.some.inj (here.symm.trans kept)
      exact .inr (List.mem_filterMap.2 ⟨_, used, by simp [duck]⟩)
  omega

end ResolverOptions

/-- No kept handle has a name bound. -/
theorem Cache.Sound.free (sound : cache.Sound policy types) {key : MemberKey} {h : Handle}
    (kept : cache.get? key = some h) : h.boundName? = none := by
  obtain ⟨type, found, -, finds, rfl⟩ := sound key h kept
  exact (HostType.find?_free finds).2

/-- What the cache of a resolver holds after requests, told from the requests and their answers. -/
structure ResolverOptions.Remembers (policy : OverloadPolicy) (types : TypeTable)
    (asked : List (Value × String × Access)) (cache : Cache) : Prop where
  /-- There is one key for each request that is answered, and no other key. -/
  keys : ∀ key, cache.contains key = true ↔ ∃ target name access h r,
    Answers policy types .empty asked target name access h ∧ target.receiver? = some r ∧
      h.keptUnder r.typeId name access = key
  /-- A request that fails changes nothing. -/
  failing : ∀ target name access e,
    (resolver ⟨policy, true⟩ types target name access cache).1 = .error e →
      (resolver ⟨policy, true⟩ types target name access cache).2 = cache
  /-- A request that was made before changes nothing. -/
  repeated : ∀ target name access, (target, name, access) ∈ asked →
    (resolver ⟨policy, true⟩ types target name access cache).2 = cache
  /-- The same requests in any order, and any number of times each, have the same kept. -/
  unordered : ∀ asked', (∀ request, request ∈ asked' ↔ request ∈ asked) →
    (∀ key, (cacheAfter ⟨policy, true⟩ types .empty asked').get? key = cache.get? key) ∧
      (cacheAfter ⟨policy, true⟩ types .empty asked').size = cache.size
  /-- Properties used by a method that takes their name add one entry at most for each type and each
  kind of use, however many names are used. -/
  named : ∀ (more : List (Value × String × Access)) (uses : List (TypeId × Access)),
    (∀ target name access h r, Answers policy types cache more target name access h →
      target.receiver? = some r → h.kind.bindsName = true ∧ (r.typeId, access) ∈ uses) →
    (cacheAfter ⟨policy, true⟩ types .empty (asked ++ more)).size ≤ cache.size + uses.length
  /-- A kept handle passes no name. -/
  free : ∀ key h, cache.get? key = some h → h.boundName? = none

/-- What is kept after any requests is determined by which requests were made. -/
theorem ResolverOptions.cacheAfter_remembers (policy : OverloadPolicy) (types : TypeTable)
    (asked : List (Value × String × Access)) :
    Remembers policy types asked (cacheAfter ⟨policy, true⟩ types .empty asked) := by
  have sound (asked : List (Value × String × Access)) :
      (cacheAfter ⟨policy, true⟩ types .empty asked).Sound policy types :=
    sound_cacheAfter ⟨policy, true⟩ asked Cache.sound_empty
  refine { keys := fun key => ?_, failing := ?_, repeated := ?_, unordered := ?_, named := ?_,
           free := fun key h kept => (sound asked).free kept }
  · rw [contains_cacheAfter_answers Cache.sound_empty]
    simp [Table.contains]
  · intro target name access e failed
    have keeps := keeps_resolver (sound asked) target name access
    rw [failed] at keeps
    obtain ⟨none⟩ := keeps
    exact resolver_cache_eq fun key kept => by rw [none] at kept; cases kept
  · intro target name access listed
    exact resolver_cache_eq fun key kept =>
      (contains_cacheAfter Cache.sound_empty asked key).2 (.inr ⟨_, _, _, listed, kept⟩)
  · intro asked' same
    have present (key : MemberKey) :
        (cacheAfter ⟨policy, true⟩ types .empty asked').contains key = true ↔
          (cacheAfter ⟨policy, true⟩ types .empty asked).contains key = true := by
      simp only [contains_cacheAfter Cache.sound_empty, same]
    exact ⟨fun key => (sound asked').get?_eq (sound asked) (present key),
      Table.size_eq_of_contains present⟩
  · intro more uses named
    rw [cacheAfter_append]
    exact size_cacheAfter_le (sound asked) uses named

/-- Two properties written by one method have one entry. -/
example :
    let gauge : Value := .object ⟨"g", 0, "Gauge"⟩
    (ResolverOptions.cacheAfter ⟨.firstCompatible, true⟩ gauges .empty
      [(gauge, "level", .set .integer), (gauge, "width", .set .integer)]).size = 1 := by
  rfl

end ExprScript
