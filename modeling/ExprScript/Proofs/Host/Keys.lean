import ExprScript.Proofs.Host.Calls

/-!
# What a request keeps

A request keeps one handle at most, under a key that does not depend on what is kept already. A
cache is known by its keys, so it does not matter in which order requests are made.
-/

namespace ExprScript

variable {types : TypeTable} {policy : OverloadPolicy} {cache cache' : Cache}

theorem Table.contains_insert {κ ν : Type} [DecidableEq κ] (t : Table κ ν) (key other : κ)
    (value : ν) : (t.insert key value).contains other = true ↔
      t.contains other = true ∨ key = other := by
  rw [contains, get?_insert]
  split
  · rename_i same
    simp [same]
  · rename_i apart
    simp [contains, Ne.symm apart]

/-- The key that the handle for a use of a member is kept under. The use of a property by a method
that takes its name keeps the method. -/
def HostType.answerKey? (type : HostType) (policy : OverloadPolicy) (id : TypeId) (name : String)
    (access : Access) : Option MemberKey :=
  if (type.find? policy id name access).isSome then some ⟨id, name, access⟩
  else (ResolverOptions.duckCall? access).bind fun (method, kinds, _) =>
    (type.findCall? policy id method kinds).map fun _ => ⟨id, method, .call kinds⟩

/-- Caches whose handles answer their keys are the same where they have the same keys. -/
theorem Cache.Sound.get?_eq (sound : cache.Sound policy types) (sound' : cache'.Sound policy types)
    {key : MemberKey} (same : cache.contains key = true ↔ cache'.contains key = true) :
    cache.get? key = cache'.get? key := by
  cases kept : cache.get? key with
  | none =>
    cases kept' : cache'.get? key with
    | none => rfl
    | some h' => simp [Table.contains, kept, kept'] at same
  | some h =>
    cases kept' : cache'.get? key with
    | none => simp [Table.contains, kept, kept'] at same
    | some h' =>
      obtain ⟨type, found, declared, finds, rfl⟩ := sound key h kept
      obtain ⟨found', finds', rfl⟩ := sound'.kept declared kept'
      obtain rfl : found = found' := Option.some.inj (finds.symm.trans finds')
      rfl

/-- Answers that agree with the same answer agree. -/
theorem AnswersAgree.of_common {x y z : Except ResolveError Handle} (h : AnswersAgree x z)
    (h' : AnswersAgree y z) : AnswersAgree x y := by
  cases h with
  | error e =>
    cases h'
    exact .error e
  | ok agrees =>
    cases h' with
    | ok agrees' => exact .ok (agrees.trans agrees'.symm)

namespace ResolverOptions

variable {type : HostType} {id : TypeId} {target : Value} {name : String} {access : Access}

/-- The key that the handle for a request is kept under. -/
def keptKey? (options : ResolverOptions) (types : TypeTable) (target : Value) (name : String)
    (access : Access) : Option MemberKey :=
  if options.caching then
    (target.receiver?.bind fun r => (types.typeOf? r).map (r.typeId, ·)).bind fun (id, type) =>
      type.answerKey? options.policy id name access
  else none

theorem contains_resolveDuck (sound : cache.Sound policy types)
    (declared : types.withId? id = some type)
    (nothing : type.find? policy id name access = none) (key : MemberKey) :
    (resolveDuck ⟨policy, true⟩ type id name access cache).2.contains key = true ↔
      cache.contains key = true ∨ type.answerKey? policy id name access = some key := by
  unfold resolveDuck HostType.answerKey?
  rw [nothing]
  cases duckCall? access with
  | none => simp
  | some call =>
    obtain ⟨method, kinds, kind⟩ := call
    simp only [kept?, if_true]
    cases kept : cache.get? ⟨id, method, .call kinds⟩ with
    | some h =>
      -- A kept method was found for its key, so this key is the answer's without a new entry too.
      obtain ⟨found, finds, -⟩ := sound.kept declared kept
      have finds : type.findCall? policy id method kinds = some found := finds
      have present : cache.contains ⟨id, method, .call kinds⟩ = true := by
        simp [Table.contains, kept]
      grind
    | none =>
      cases finds : type.findCall? policy id method kinds with
      | none => simp [finds]
      | some found => simp [finds, keep, Table.contains_insert]

theorem contains_resolveOn (sound : cache.Sound policy types)
    (declared : types.withId? id = some type) (key : MemberKey) :
    (resolveOn ⟨policy, true⟩ type id name access cache).2.contains key = true ↔
      cache.contains key = true ∨ type.answerKey? policy id name access = some key := by
  unfold resolveOn
  simp only [kept?, if_true]
  cases kept : cache.get? ⟨id, name, access⟩ with
  | some h =>
    obtain ⟨found, finds, -⟩ := sound.kept declared kept
    have finds : type.find? policy id name access = some found := finds
    have present : cache.contains ⟨id, name, access⟩ = true := by simp [Table.contains, kept]
    simp only [HostType.answerKey?, finds]
    grind
  | none =>
    cases finds : type.find? policy id name access with
    | some found => simp [finds, HostType.answerKey?, keep, Table.contains_insert]
    | none =>
      have duck :
          (resolveDuck ⟨policy, true⟩ type id name access cache).2.contains key = true ↔ _ :=
        contains_resolveDuck sound declared finds key
      simp only
      generalize resolveDuck ⟨policy, true⟩ type id name access cache = r at duck ⊢
      obtain ⟨found | h, cache'⟩ := r
      · exact duck
      · exact duck

/-- After a request the keys are those before and the one that the request is answered under. -/
theorem contains_resolver (options : ResolverOptions) (sound : cache.Sound options.policy types)
    (target : Value) (name : String) (access : Access) (key : MemberKey) :
    (options.resolver types target name access cache).2.contains key = true ↔
      cache.contains key = true ∨ options.keptKey? types target name access = some key := by
  obtain ⟨policy, caching⟩ := options
  cases caching with
  | false =>
    rw [resolver_uncached .empty]
    simp [keptKey?]
  | true =>
    unfold resolver keptKey?
    rw [if_pos rfl]
    cases found : target.receiver?.bind fun r => (types.typeOf? r).map (r.typeId, ·) with
    | none => simp
    | some place =>
      obtain ⟨r, -, found⟩ := Option.bind_eq_some_iff.1 found
      obtain ⟨type, declared, rfl⟩ := Option.map_eq_some_iff.1 found
      rw [types.typeOf?_eq] at declared
      exact contains_resolveOn sound declared key

/-- Whatever is kept, a request is answered alike. -/
theorem resolver_answers_agree (options : ResolverOptions)
    (sound : cache.Sound options.policy types) (sound' : cache'.Sound options.policy types)
    (target : Value) (name : String) (access : Access) :
    AnswersAgree (options.resolver types target name access cache).1
      (options.resolver types target name access cache').1 :=
  (options.resolver_sound sound).1.of_common (options.resolver_sound sound').1

end ResolverOptions

end ExprScript
