import ExprScript.Host.Resolver

/-!
# Resolving with a cache and without

Every kept handle is what a search for its key finds, marked with the key. This holds however the
handle came to be kept, so a search that is answered from the cache finds what it finds without one.
-/

namespace ExprScript

/-- The type with an identity. -/
def TypeTable.withId? (types : TypeTable) : TypeId → Option HostType
  | .text => some HostType.text
  | .declared index => types[index]?

theorem TypeTable.typeOf?_eq (types : TypeTable) (r : Receiver) :
    types.typeOf? r = types.withId? r.typeId := by
  cases r <;> rfl

/-- Two handles are of one member and do the same. -/
structure Handle.Agrees (h h' : Handle) : Prop where
  member : h.member = h'.member
  kind : h.kind = h'.kind
  params : h.params = h'.params
  boundName? : h.boundName? = h'.boundName?
  invoke : ∀ receiver arguments heap,
    h.invoke receiver arguments heap = h'.invoke receiver arguments heap

theorem Handle.Agrees.refl (h : Handle) : h.Agrees h := ⟨rfl, rfl, rfl, rfl, fun _ _ _ => rfl⟩

theorem Handle.Agrees.symm {h h' : Handle} (agrees : h.Agrees h') : h'.Agrees h :=
  ⟨agrees.member.symm, agrees.kind.symm, agrees.params.symm, agrees.boundName?.symm,
    fun _ _ _ => (agrees.invoke _ _ _).symm⟩

theorem Handle.Agrees.trans {h h' h'' : Handle} (agrees : h.Agrees h') (agrees' : h'.Agrees h'') :
    h.Agrees h'' :=
  ⟨agrees.member.trans agrees'.member, agrees.kind.trans agrees'.kind,
    agrees.params.trans agrees'.params, agrees.boundName?.trans agrees'.boundName?,
    fun _ _ _ => (agrees.invoke _ _ _).trans (agrees'.invoke _ _ _)⟩

/-- The key of a handle plays no part in what it does. -/
theorem Handle.agrees_keyed (h : Handle) (key? : Option MemberKey) :
    Handle.Agrees { h with key? } h :=
  ⟨rfl, rfl, rfl, rfl, fun _ _ _ => rfl⟩

/-- Two answers of resolvers: the same error, or handles that agree. -/
inductive AnswersAgree : Except ResolveError Handle → Except ResolveError Handle → Prop where
  | ok {h h'} : h.Agrees h' → AnswersAgree (.ok h) (.ok h')
  | error (e) : AnswersAgree (.error e) (.error e)

/-- Every kept handle is the one found for its key. -/
def Cache.Sound (policy : OverloadPolicy) (types : TypeTable) (cache : Cache) : Prop :=
  ∀ key h, cache.get? key = some h →
    ∃ type found, types.withId? key.typeId = some type ∧
      type.find? policy key.typeId key.name key.access = some found ∧
      h = { found with key? := some key }

variable {policy : OverloadPolicy} {types : TypeTable} {cache : Cache}

theorem Cache.sound_empty : Cache.Sound policy types .empty := by
  intro key h kept
  simp at kept

theorem Cache.Sound.insert (sound : cache.Sound policy types) (key : MemberKey) {type : HostType}
    {found : Handle} (declared : types.withId? key.typeId = some type)
    (finds : type.find? policy key.typeId key.name key.access = some found) :
    Cache.Sound policy types (Table.insert cache key { found with key? := some key }) := by
  intro other h kept
  rw [Table.get?_insert] at kept
  split at kept
  · rename_i same
    subst same
    exact ⟨type, found, declared, finds, (Option.some.inj kept).symm⟩
  · exact sound other h kept

/-- The one type with an identity answers for all its keys. -/
theorem Cache.Sound.kept (sound : cache.Sound policy types) {key : MemberKey} {type : HostType}
    {h : Handle} (declared : types.withId? key.typeId = some type)
    (kept : cache.get? key = some h) :
    ∃ found, type.find? policy key.typeId key.name key.access = some found ∧
      h = { found with key? := some key } := by
  obtain ⟨type', found, declared', finds, same⟩ := sound key h kept
  obtain rfl : type = type' := Option.some.inj (declared.symm.trans declared')
  exact ⟨found, finds, same⟩

namespace ResolverOptions

variable {type : HostType} {id : TypeId}

/-- A handle with a bound name is fresh, whether the method was kept or not. -/
theorem resolveDuck_agrees (sound : cache.Sound policy types)
    (declared : types.withId? id = some type) (name : String) (access : Access) (other : Cache) :
    (resolveDuck ⟨policy, true⟩ type id name access cache).1 =
        (resolveDuck ⟨policy, false⟩ type id name access other).1 ∧
      (resolveDuck ⟨policy, true⟩ type id name access cache).2.Sound policy types := by
  unfold resolveDuck
  split
  · exact ⟨rfl, sound⟩
  · rename_i method kinds kind _
    cases kept : cache.get? ⟨id, method, .call kinds⟩ with
    | some h =>
      obtain ⟨found, finds, rfl⟩ := sound.kept declared kept
      have finds : type.findCall? policy id method kinds = some found := finds
      simp [kept?, kept, finds, keep, Handle.bind, sound]
    | none =>
      cases finds : type.findCall? policy id method kinds with
      | none => simp [kept?, kept, sound]
      | some found =>
        have inserted := sound.insert ⟨id, method, .call kinds⟩ declared finds
        simp [kept?, kept, keep, Handle.bind, inserted]

theorem resolveOn_agrees (sound : cache.Sound policy types)
    (declared : types.withId? id = some type) (name : String) (access : Access) (other : Cache) :
    AnswersAgree (resolveOn ⟨policy, true⟩ type id name access cache).1
        (resolveOn ⟨policy, false⟩ type id name access other).1 ∧
      (resolveOn ⟨policy, true⟩ type id name access cache).2.Sound policy types := by
  unfold resolveOn
  cases kept : cache.get? ⟨id, name, access⟩ with
  | some h =>
    obtain ⟨found, finds, rfl⟩ := sound.kept declared kept
    have finds : type.find? policy id name access = some found := finds
    simp only [kept?, kept, finds, keep, if_true, Bool.false_eq_true, if_false]
    exact ⟨.ok (found.agrees_keyed _), sound⟩
  | none =>
    cases finds : type.find? policy id name access with
    | some found =>
      have inserted := sound.insert ⟨id, name, access⟩ declared finds
      simp only [kept?, kept, keep, if_true, Bool.false_eq_true, if_false]
      exact ⟨.ok (found.agrees_keyed _), inserted⟩
    | none =>
      obtain ⟨same, sound'⟩ := resolveDuck_agrees sound declared name access other
      simp only [kept?, kept, if_true, Bool.false_eq_true, if_false]
      generalize resolveDuck ⟨policy, true⟩ type id name access cache = r₁ at same sound' ⊢
      generalize resolveDuck ⟨policy, false⟩ type id name access other = r₂ at same ⊢
      obtain ⟨found, cache'⟩ := r₁
      obtain ⟨found', other'⟩ := r₂
      obtain rfl : found = found' := same
      cases found with
      | none => exact ⟨.error _, sound'⟩
      | some h => exact ⟨.ok (.refl h), sound'⟩

theorem resolver_agrees (sound : cache.Sound policy types) (target : Value) (name : String)
    (access : Access) (other : Cache) :
    AnswersAgree (resolver ⟨policy, true⟩ types target name access cache).1
        (resolver ⟨policy, false⟩ types target name access other).1 ∧
      (resolver ⟨policy, true⟩ types target name access cache).2.Sound policy types := by
  unfold resolver
  split
  · rename_i id type found
    refine resolveOn_agrees sound ?_ name access other
    obtain ⟨r, -, found⟩ := Option.bind_eq_some_iff.1 found
    obtain ⟨_, declared, same⟩ := Option.map_eq_some_iff.1 found
    cases same
    rw [← types.typeOf?_eq, declared]
  · exact ⟨.error _, sound⟩

end ResolverOptions

end ExprScript
