import ExprScript.Eval.Arithmetic
import ExprScript.Proofs.Host.Fields
import ExprScript.Proofs.Host.Keys
import ExprScript.Proofs.Host.Substrings
import ExprScript.Proofs.Host.Transparency

/-!
# Emptiness told by the size

A value that does not tell itself whether it is empty is empty when its size is the integer zero.
The size is asked for a second time, with other handles kept. It is the same size while the objects
stay as they are. Sizes that are no integers but equal to zero are not those of empty values.
-/

namespace ExprScript

/-! ### Members called again -/

section

variable {types : TypeTable} {w w' : World} {ref : ObjectRef} {name : String}

/-- Worlds with the same objects, in each of which the kept handles answer their keys. -/
structure World.SameObjects (policy : OverloadPolicy) (types : TypeTable) (w w' : World) :
    Prop where
  heap : w.heap = w'.heap
  sound : w.cache.Sound policy types
  sound' : w'.cache.Sound policy types

namespace ResolverOptions

/-- Whatever is used does the same to the same objects, whichever handles are kept. -/
theorem coupled_self (options : ResolverOptions) (types : TypeTable) :
    Resolver.Coupled (World.SameObjects options.policy types) (fun _ => True)
      (options.resolver types) (options.resolver types) := by
  intro target name use _ _ w w' same
  have agree := options.resolver_answers_agree same.sound same.sound' target name use.access
  have sound : (options.resolver types target name use.access w.cache).2.Sound _ types :=
    (options.resolver_sound same.sound).2
  have sound' : (options.resolver types target name use.access w'.cache).2.Sound _ types :=
    (options.resolver_sound same.sound').2
  generalize options.resolver types target name use.access w.cache = x at agree sound ⊢
  generalize options.resolver types target name use.access w'.cache = y at agree sound' ⊢
  obtain ⟨answer, cache⟩ := x
  obtain ⟨answer', cache'⟩ := y
  cases agree with
  | error e => exact .error ⟨same.heap, sound, sound'⟩
  | ok agrees =>
    have first := StepsAlike.runOn agrees target use.arguments { w with cache }
      { w' with cache := cache' } ⟨same.heap, sound⟩
    have second := StepsAlike.runOn agrees.symm target use.arguments { w' with cache := cache' }
      { w with cache } ⟨same.heap.symm, sound'⟩
    exact .ok ⟨first.1, fun _ _ => trivial, ⟨first.2.heap, first.2.sound, second.2.sound⟩⟩

/-- Without a public method that takes the arguments, a call finds nothing. -/
theorem error_of_unusable (options : ResolverOptions) {cache : Cache}
    (sound : cache.Sound options.policy types) {kinds : List ValueKind}
    (unusable : ∀ type ∈ types[ref.typeIndex]?, ∀ m, ¬ type.Usable m name kinds) :
    ∃ e, (options.resolver types (.object ref) name (.call kinds) cache).1 = .error e := by
  cases declared : types[ref.typeIndex]? with
  | none =>
    refine ⟨.notIntrospectable .object, ?_⟩
    simp [resolver, Value.receiver?, TypeTable.typeOf?, declared, Value.kind]
  | some type =>
    have decides := options.decides_of_sound sound declared name (.call kinds)
    generalize (options.resolver types (.object ref) name (.call kinds) cache).1 = answer at decides
    cases decides with
    | none => exact ⟨_, rfl⟩
    | @found _ _ route _ _ order candidate =>
      obtain rfl : Route.method name kinds .method = route := by
        have listed : route ∈ Access.routes name (.call kinds) := by simp [order]
        exact (List.mem_singleton.1 listed).symm
      obtain ⟨-, usable⟩ := candidate
      exact absurd usable (unusable type declared _)

end ResolverOptions

namespace Resolver

variable {resolve : Resolver} {target n : Value} {e : ResolveError}

theorem callIfPresent_of_error (missing : (resolve target name (.call []) w.cache).1 = .error e) :
    resolve.callIfPresent target name w =
      (.ok none, { w with cache := (resolve target name (.call []) w.cache).2 }) := by
  have pair : resolve target name (.call []) w.cache =
      (.error e, (resolve target name (.call []) w.cache).2) := Prod.ext missing rfl
  rw [callIfPresent, pair]

/-- An object that has a size told it in a call. -/
theorem callIfPresent_of_size (size : resolve.sizeOf (.object ref) w = (.ok n, w')) :
    resolve.callIfPresent (.object ref) "size" w = (.ok (some n), w') := by
  simp only [sizeOf] at size
  generalize resolve.callIfPresent (.object ref) "size" w = called at size ⊢
  obtain ⟨result, after⟩ := called
  rcases result with e | _ | size'
  · cases size
  · cases size
  · cases size
    rfl

/-- The emptiness of an object that does not tell it itself. -/
theorem isEmpty_of_error
    (missing : (resolve (.object ref) "isEmpty" (.call []) w.cache).1 = .error e)
    {cache : Cache} (kept : cache = (resolve (.object ref) "isEmpty" (.call []) w.cache).2)
    (size : resolve.callIfPresent (.object ref) "size" { w with cache } = (.ok (some n), w')) :
    resolve.isEmpty (.object ref) w = (.ok (n.same (.integer 0)), w') := by
  subst kept
  simp only [isEmpty, callIfPresent_of_error missing, size]
  rfl

end Resolver

/-- Where the size leaves the objects as they are, it is what the emptiness is told by. -/
theorem ResolverOptions.isEmpty_of_size (options : ResolverOptions) {heap : Heap}
    {cache cache' after : Cache} (sound : cache.Sound options.policy types)
    (sound' : cache'.Sound options.policy types)
    (silent : ∀ type ∈ types[ref.typeIndex]?, ∀ m, ¬ type.Usable m "isEmpty" []) {n : Value}
    (size : (options.resolver types).sizeOf (.object ref) ⟨heap, cache⟩ = (.ok n, ⟨heap, after⟩)) :
    ∃ after', (options.resolver types).isEmpty (.object ref) ⟨heap, cache'⟩ =
      (.ok (n.same (.integer 0)), ⟨heap, after'⟩) := by
  obtain ⟨e, missing⟩ := options.error_of_unusable sound' silent
  obtain ⟨kept, is⟩ : ∃ kept, kept =
      (options.resolver types (.object ref) "isEmpty" (.call []) cache').2 := ⟨_, rfl⟩
  -- Asking for `isEmpty` in vain changes no object, so the size is told as it was before.
  have related : World.SameObjects options.policy types ⟨heap, cache⟩ ⟨heap, kept⟩ := by
    refine ⟨rfl, sound, ?_⟩
    rw [is]
    exact (options.resolver_sound sound').2
  have called : Paired _ _ ((options.resolver types).callIfPresent (.object ref) "size" _) _ :=
    (options.coupled_self types).callIfPresent "size" trivial related
  rw [Resolver.callIfPresent_of_size size] at called
  generalize again : (options.resolver types).callIfPresent (.object ref) "size" ⟨heap, kept⟩ = y
    at called
  obtain ⟨result, heap', after'⟩ := y
  obtain ⟨rfl, -, objects⟩ := called
  obtain rfl : heap = heap' := objects.heap
  exact ⟨after', Resolver.isEmpty_of_error missing is again⟩

end

/-! ### Sizes that are zero -/

namespace Value

theorem same_zero_iff {n : Value} : n.same (.integer 0) = true ↔ n = .integer 0 := by
  cases n <;> simp [same]

/-- Apart from doubles and strings nothing but the integer is equal to zero. -/
theorem equal_zero_iff {n : Value} (exact : ¬ (n.kind = .float ∨ n.kind = .string)) :
    equalValues n (.integer 0) = true ↔ n = .integer 0 := by
  cases n with
  | float | string => simp [kind] at exact
  | null | boolean | object => simp [equalValues, kind, number?]
  | integer k => simp [equalValues, kind, number?, Number.same]

end Value

/-- A value whose size tells whether it is empty: null, a string that can be held, or an object
without a public method `isEmpty` that takes no arguments. -/
inductive Value.EmptyBySize (types : TypeTable) : Value → Prop where
  | null : EmptyBySize types .null
  | string {s : String} {L : Int64} (counted : L.toInt = s.toList.length) :
    EmptyBySize types (.string s)
  | object {ref : ObjectRef}
    (silent : ∀ type ∈ types[ref.typeIndex]?, ∀ m, ¬ type.Usable m "isEmpty" []) :
    EmptyBySize types (.object ref)

/-- An empty value is one whose size is the integer zero, without conversions. -/
theorem Value.EmptyBySize.empty {types : TypeTable} {v n : Value} (bySize : v.EmptyBySize types)
    (options : ResolverOptions) {heap : Heap} {cache cache' after : Cache}
    (sound : cache.Sound options.policy types) (sound' : cache'.Sound options.policy types)
    (size : (options.resolver types).applyBuiltin .size v ⟨heap, cache⟩ = (.ok n, ⟨heap, after⟩)) :
    ∃ after', (options.resolver types).applyBuiltin .empty v ⟨heap, cache'⟩ =
      (.ok (.boolean (n.same (.integer 0))), ⟨heap, after'⟩) := by
  cases bySize with
  | null =>
    cases size
    exact ⟨cache', rfl⟩
  | @string s L counted =>
    rw [size_of_string counted] at size
    cases size
    have zero : s.toList.isEmpty = (Value.integer L).same (.integer 0) := by
      rw [Bool.eq_iff_iff, List.isEmpty_iff_length_eq_zero, same_zero_iff, Value.integer.injEq,
        ← Int64.toInt_inj, counted]
      exact Int.natCast_eq_zero.symm
    exact ⟨cache', by rw [← zero]; rfl⟩
  | object silent =>
    obtain ⟨after', empty⟩ := options.isEmpty_of_size sound sound' silent size
    refine ⟨after', ?_⟩
    rw [Resolver.applyBuiltin, empty]
    rfl

/-- The emptiness of a value that has a size and leaves the telling of its emptiness to it. It is
told whenever the size is, in the same state of the objects and whatever was asked for before, and
changes no object either. The value is empty just if the size is the integer zero. So the emptiness
is what comparing the size with zero gives, unless the size is a double or a string that is equal to
zero. -/
theorem empty_of_size (options : ResolverOptions) (types : TypeTable) {v n : Value}
    (bySize : v.EmptyBySize types) (asked asked' : List (Value × String × Access)) {heap : Heap}
    {after : Cache}
    (size : (options.resolver types).applyBuiltin .size v
      ⟨heap, options.cacheAfter types .empty asked⟩ = (.ok n, ⟨heap, after⟩)) :
    ∃ (b : Bool) (after' : Cache),
      (options.resolver types).applyBuiltin .empty v
        ⟨heap, options.cacheAfter types .empty asked'⟩ = (.ok (.boolean b), ⟨heap, after'⟩) ∧
      (b = true ↔ n = .integer 0) ∧
      ∀ strict, BinaryOp.equal.apply strict n (.integer 0) = .ok (.boolean b) ↔
        ¬ ((n.kind = .float ∨ n.kind = .string) ∧
          BinaryOp.equal.apply strict n (.integer 0) = .ok (.boolean true)) := by
  obtain ⟨after', empty⟩ := bySize.empty options (options.sound_cacheAfter asked Cache.sound_empty)
    (options.sound_cacheAfter asked' Cache.sound_empty) size
  refine ⟨_, after', empty, Value.same_zero_iff, fun strict => ?_⟩
  have told : ∀ b, BinaryOp.equal.apply strict n (.integer 0) = .ok (.boolean b) ↔
      equalValues n (.integer 0) = b := by
    intro b
    rw [BinaryOp.apply]
    simp
  rw [told, told]
  by_cases exact : n.kind = .float ∨ n.kind = .string
  -- A size of these kinds is never the integer, whatever it is equal to.
  · have other : n.same (.integer 0) = false := by
      refine Bool.eq_false_iff.2 fun same => ?_
      rw [Value.same_zero_iff.1 same] at exact
      simp [Value.kind] at exact
    simp [exact, other]
  · simp only [exact, false_and, not_false_eq_true, iff_true]
    rw [Bool.eq_iff_iff, Value.equal_zero_iff exact, Value.same_zero_iff]

/-- A type whose objects all have one size and nothing else. -/
def bagOf (size : Value) : HostType :=
  (HostType.named "Bag" .visible).addMethod ⟨"size", [], .visible, .const size⟩

theorem emptyBySize_bagOf (size : Value) (id : String) :
    Value.EmptyBySize [bagOf size] (.object ⟨id, 0, "Bag"⟩) := by
  refine .object ?_
  rintro type ⟨⟩ m ⟨declared, -, name_eq, -⟩
  obtain rfl := List.mem_singleton.1 declared
  have other : "size" ≠ "isEmpty" := by decide
  exact absurd name_eq other

/-- A bag of size zero is empty, also when its size was asked for before. -/
theorem empty_of_size_bag :
    let types := [bagOf (.integer 0)]
    let options : ResolverOptions := ⟨.exactThenFirstCompatible, true⟩
    let bag : Value := .object ⟨"b", 0, "Bag"⟩
    let asked := options.cacheAfter types .empty [(bag, "size", .call [])]
    bag.EmptyBySize types ∧
      (options.resolver types).applyBuiltin .size bag ⟨.empty, .empty⟩ =
        (.ok (.integer 0), ⟨.empty, asked⟩) ∧
      ∃ after, (options.resolver types).applyBuiltin .empty bag ⟨.empty, asked⟩ =
        (.ok (.boolean true), ⟨.empty, after⟩) := by
  intro types options bag asked
  have size : (options.resolver types).applyBuiltin .size bag ⟨.empty, .empty⟩ =
      (.ok (.integer 0), ⟨.empty, asked⟩) := rfl
  have bySize := emptyBySize_bagOf (.integer 0) "b"
  obtain ⟨b, after, empty, zero, -⟩ :=
    empty_of_size options types bySize [] [(bag, "size", .call [])] size
  rw [zero.2 rfl] at empty
  exact ⟨bySize, size, after, empty⟩

/-- A bag whose size is the double zero is not empty, though its size is equal to zero. -/
theorem not_empty_of_double_zero :
    let types := [bagOf (.float 0)]
    let options : ResolverOptions := ⟨.exactThenFirstCompatible, true⟩
    let bag : Value := .object ⟨"b", 0, "Bag"⟩
    let asked := options.cacheAfter types .empty [(bag, "size", .call [])]
    bag.EmptyBySize types ∧
      (options.resolver types).applyBuiltin .size bag ⟨.empty, .empty⟩ =
        (.ok (.float 0), ⟨.empty, asked⟩) ∧
      BinaryOp.equal.apply false (.float 0) (.integer 0) = .ok (.boolean true) ∧
      (options.resolver types).applyBuiltin .empty bag ⟨.empty, asked⟩ =
        (.ok (.boolean false), ⟨.empty, asked⟩) := by
  intro types options bag asked
  have equal : equalValues (.float 0) (.integer 0) = true := by decide +kernel
  exact ⟨emptyBySize_bagOf (.float 0) "b", rfl, congrArg (Except.ok ∘ Value.boolean) equal, rfl⟩

end ExprScript
