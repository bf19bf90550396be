import ExprScript.Engine
import ExprScript.Proofs.Eval.Coupling
import ExprScript.Proofs.Host.Keys
import ExprScript.Proofs.Host.Territory
import ExprScript.Proofs.RoundTrip.Range

/-!
# Independent evaluations

An evaluation depends on and changes the objects that can be reached from its context only, and it
keeps the same handles whatever is kept already. So two evaluations that can reach no common object
can be made in either order.
-/

namespace ExprScript

/-- The objects that can be reached from the variables of a context, through slots and through the
constants that public members give. -/
inductive Reachable (types : TypeTable) (heap : Heap) (context : Context) : ObjectRef → Prop where
  | bound {name : String} {a : ObjectRef} :
    context.get? name = some (.object a) → Reachable types heap context a
  | slot {a b : ObjectRef} {name : String} :
    Reachable types heap context a → heap.read a.id name = .object b →
    Reachable types heap context b
  | constant {a b : ObjectRef} {type : HostType} {kind : HandleKind} {name : String}
    {params : List ParamType} :
    Reachable types heap context a → types.typeOf? (.object a) = some type →
    type.Offers kind name params (.const (.object b)) → Reachable types heap context b

/-- All that can be reached from a context. -/
def Territory.ofContext (types : TypeTable) (heap : Heap) (context : Context) :
    Territory types where
  Holds := Reachable types heap context
  constant := .constant

variable {types : TypeTable} {heap : Heap} {context : Context}

theorem Territory.sealed_ofContext : (ofContext types heap context).Sealed heap := by
  rintro _ ⟨ref, reachable, rfl⟩ slot
  cases found : heap.read ref.id slot with
  | object b => exact .slot reachable found
  | _ => trivial

theorem Territory.admits_ofContext {name : String} {v : Value}
    (bound : context.get? name = some v) : (ofContext types heap context).Admits v := by
  cases v with
  | object a => exact .bound bound
  | _ => trivial

/-! ### One evaluation in two worlds -/

/-- How a world has come from its origin by work in a territory for which handles with some keys
were asked. -/
structure World.Since (T : Territory types) (policy : OverloadPolicy) (asked : MemberKey → Prop)
    (origin w : World) : Prop where
  closed : T.Sealed w.heap
  off : T.SameOff origin.heap w.heap
  sound : w.cache.Sound policy types
  keys : ∀ key, w.cache.contains key = true ↔ origin.cache.contains key = true ∨ asked key

/-- Two worlds in which the same has been done in a territory since their origins. -/
def World.InStep (T : Territory types) (policy : OverloadPolicy) (origin origin' w w' : World) :
    Prop :=
  T.SameOn w.heap w'.heap ∧
    ∃ asked, World.Since T policy asked origin w ∧ World.Since T policy asked origin' w'

/-- A step of a territory takes a world farther from its origin, and nothing is asked for. -/
theorem World.Since.step {T : Territory types} {policy : OverloadPolicy}
    {asked : MemberKey → Prop} {origin w : World} (h : World.Since T policy asked origin w)
    {step : Heap → Except HostError Value × Heap} (confined : T.Confines step) :
    World.Since T policy asked origin { w with heap := (step w.heap).2 } where
  closed := confined.seals h.closed
  off id foreign := (h.off id foreign).trans (confined.off h.closed id foreign)
  sound := h.sound
  keys := h.keys

/-- A request adds one key to those asked for. -/
theorem World.Since.request {T : Territory types} {options : ResolverOptions}
    {asked : MemberKey → Prop} {origin w : World}
    (h : World.Since T options.policy asked origin w) (target : Value) (name : String)
    (access : Access) :
    World.Since T options.policy
      (fun key => asked key ∨ options.keptKey? types target name access = some key) origin
      { w with cache := (options.resolver types target name access w.cache).2 } where
  closed := h.closed
  off := h.off
  sound := (options.resolver_sound h.sound).2
  keys key := by rw [options.contains_resolver h.sound, h.keys, or_assoc]

section Steps

variable {T : Territory types} {policy : OverloadPolicy} {origin origin' w w' : World}

/-- Handles that agree and are confined to the territory keep worlds in step. -/
theorem Handle.runOn_inStep {h h' : Handle} (agrees : h.Agrees h') {target : Value}
    {receiver : Receiver} {arguments : List Value} (is : target.receiver? = some receiver)
    (confined : T.Confines (h.invoke receiver arguments))
    (inStep : World.InStep T policy origin origin' w w') :
    Paired (World.InStep T policy origin origin') (Ensures T.Admits) (h.runOn target arguments w)
      (h'.runOn target arguments w') := by
  obtain ⟨on, asked, since, since'⟩ := inStep
  have confined' : T.Confines (h'.invoke receiver arguments) := by
    rw [← funext (agrees.invoke receiver arguments)]
    exact confined
  have invoke := agrees.invoke receiver arguments w'.heap
  unfold Handle.runOn
  rw [is]
  refine ⟨?_, (confined.admits since.closed).mapError _, ?_, asked, since.step confined,
    since'.step confined'⟩
  · simp only [← invoke, ← agrees.member, confined.same since.closed on]
  · simp only [← invoke]
    exact confined.on since.closed on

/-- Whatever is kept, uses in the territory keep worlds in step. -/
theorem ResolverOptions.resolver_inStep (options : ResolverOptions)
    (effects : types.EffectsConfined) :
    Resolver.Coupled (World.InStep T options.policy origin origin') T.Admits
      (options.resolver types) (options.resolver types) := by
  intro target name use own passed w w' ⟨on, asked, since, since'⟩
  have agree := options.resolver_answers_agree since.sound since'.sound target name use.access
  have kept := since.request target name use.access
  have kept' := since'.request target name use.access
  rcases answer : options.resolver types target name use.access w.cache with ⟨x, c⟩
  rcases answer' : options.resolver types target name use.access w'.cache with ⟨y, c'⟩
  rw [answer, answer'] at agree
  rw [answer] at kept
  rw [answer'] at kept'
  have inStep : World.InStep T options.policy origin origin' { w with cache := c }
      { w' with cache := c' } := ⟨on, _, kept, kept'⟩
  cases agree with
  | error e => exact .error inStep
  | ok agrees =>
    obtain ⟨receiver, type, body, is, declared, serves⟩ :=
      options.serves_of_resolver since.sound (congrArg Prod.fst answer)
    have confined := Territory.confines_invoke effects is own declared serves passed
    exact .ok (Handle.runOn_inStep agrees is confined inStep)

/-- Two runs of one evaluation in worlds that are kept in step. No error is excused. -/
def Territory.coupling (T : Territory types) (policy : OverloadPolicy) (origin origin' : World) :
    Coupling where
  excused _ := False
  related s s' := s.context = s'.context ∧
    (∀ name v, s.context.get? name = some v → T.Admits v) ∧
      World.InStep T policy origin origin' s.world s'.world
  admits := T.Admits
  plain := admits_of_plain
  context_eq related := related.1
  bound related := related.2.1 _ _
  insert := by
    rintro ⟨context, w⟩ ⟨_, w'⟩ name v admitted ⟨rfl, all, inStep⟩
    refine ⟨rfl, fun other v' bound => ?_, inStep⟩
    rw [Table.get?_insert] at bound
    split at bound
    · obtain rfl := Option.some.inj bound
      exact admitted
    · exact all other v' bound

theorem Eval.coupled_attemptOn {step step' : World → Except EvalCause Value × World}
    (h : ∀ w w', World.InStep T policy origin origin' w w' →
      Paired (World.InStep T policy origin origin') (Ensures T.Admits) (step w) (step' w'))
    (span : Span) :
    Coupled (T.coupling policy origin origin') T.Admits (attemptOn span step)
      (attemptOn span step') := by
  intro s s' ⟨context, all, inStep⟩
  obtain ⟨same, holds, inStep⟩ := h s.world s'.world inStep
  refine .inr ⟨congrArg (blame span) same, ?_, context, all, inStep⟩
  intro v gives
  refine holds v ?_
  cases ran : (step s.world).1 with
  | ok a =>
    simp only [attemptOn, ran, blame, Outcome.value.injEq] at gives
    rw [gives]
  | error e => simp [attemptOn, ran, blame] at gives

theorem Setting.coupled (setting : Setting) (options : ResolverOptions)
    (effects : types.EffectsConfined) (resolves : setting.resolve = options.resolver types) :
    setting.Coupled (T.coupling options.policy origin origin') setting where
  rounds := rfl
  variableValue span context name all := by
    refine .attempt rfl ?_
    unfold Setting.variableValue
    split
    · rename_i bound
      exact .ok (all name _ bound)
    · split
      · exact .error _
      · exact .ok trivial
  binary span op lhs rhs :=
    .attempt rfl fun v ran => Territory.admits_of_plain (op.apply_plain _ lhs rhs v ran)
  unary span op operand :=
    .attempt rfl fun v ran => Territory.admits_of_plain (op.apply_plain _ operand v ran)
  useMember span target name use own passed := by
    rw [resolves]
    refine Eval.coupled_attemptOn (fun _ _ inStep => ?_) span
    exact (options.resolver_inStep effects).useMember name use own passed inStep
  builtin span function argument own := by
    rw [resolves]
    refine Eval.coupled_attemptOn (fun _ _ inStep => ?_) span
    exact (options.resolver_inStep effects).applyBuiltin Territory.admits_of_plain function own
      inStep

end Steps

/-! ### Two evaluations in either order -/

/-- The world after a unit was evaluated in a context. -/
def Engine.after (engine : Engine) (unit : CompiledUnit) (context : Context) (w : World) : World :=
  (engine.evaluate unit ⟨context, w⟩).2.world

/-- What an evaluation in a context does in one world it does in another one where all that it can
reach is the same, and it keeps both in step. -/
theorem Engine.evaluate_inStep (engine : Engine) {options : ResolverOptions}
    (effects : types.EffectsConfined) (resolves : engine.resolver = options.resolver types)
    (unit : CompiledUnit) (context : Context) {w w' : World}
    (sound : w.cache.Sound options.policy types) (sound' : w'.cache.Sound options.policy types)
    (same : (Territory.ofContext types w.heap context).SameOn w.heap w'.heap) :
    (engine.evaluate unit ⟨context, w⟩).1 = (engine.evaluate unit ⟨context, w'⟩).1 ∧
      (engine.evaluate unit ⟨context, w⟩).2.context =
        (engine.evaluate unit ⟨context, w'⟩).2.context ∧
      World.InStep (Territory.ofContext types w.heap context) options.policy w w'
        (engine.after unit context w) (engine.after unit context w') := by
  have closed : (Territory.ofContext types w.heap context).Sealed w.heap :=
    Territory.sealed_ofContext
  have start : World.InStep (Territory.ofContext types w.heap context) options.policy w w' w w' :=
    ⟨same, fun _ => False, ⟨closed, fun _ _ => rfl, sound, by simp⟩,
      ⟨closed.of_sameOn same, fun _ _ => rfl, sound', by simp⟩⟩
  have coupled := (engine.setting.coupled options effects resolves).tree unit.tree ⟨context, w⟩
    ⟨context, w'⟩ ⟨rfl, fun _ _ => Territory.admits_ofContext, start⟩
  rcases coupled with ⟨_, _, never⟩ | ⟨outcome, -, contexts, -, inStep⟩
  · exact never.elim
  · exact ⟨outcome, contexts, inStep⟩

/-- Each of two evaluations does after the other one what it does without it, and in either order
they leave the same slots of objects and the same kept handles. -/
structure Engine.Commute (engine : Engine) (first second : CompiledUnit)
    (context context' : Context) (w : World) : Prop where
  firstOutcome : (engine.evaluate first ⟨context, engine.after second context' w⟩).1 =
    (engine.evaluate first ⟨context, w⟩).1
  firstContext : (engine.evaluate first ⟨context, engine.after second context' w⟩).2.context =
    (engine.evaluate first ⟨context, w⟩).2.context
  secondOutcome : (engine.evaluate second ⟨context', engine.after first context w⟩).1 =
    (engine.evaluate second ⟨context', w⟩).1
  secondContext : (engine.evaluate second ⟨context', engine.after first context w⟩).2.context =
    (engine.evaluate second ⟨context', w⟩).2.context
  slots : ∀ id, (engine.after second context' (engine.after first context w)).heap.get? id =
    (engine.after first context (engine.after second context' w)).heap.get? id
  kept : ∀ key, (engine.after second context' (engine.after first context w)).cache.get? key =
    (engine.after first context (engine.after second context' w)).cache.get? key

/-- Sets a counter back to zero. -/
def resetCounter (ref : ObjectRef) (_ : List Value) (heap : Heap) : Except HostError Value × Heap :=
  (.ok .null, heap.write ref.id "count" (.integer 0))

/-- Counters that refer to one another. A function of the host sets them back. -/
def counterType : HostType where
  name := "Counter"
  visibility := .visible
  methods := [⟨"bump", [], .visible, .increment "count"⟩,
    ⟨"reset", [], .visible, .effect resetCounter⟩]
  fields := [.writable "peer" "peer"]

theorem bodies_counterType {kind : HandleKind} {name : String} {params : List ParamType}
    {body : Body} (offered : counterType.Offers kind name params body) :
    body = .increment "count" ∨ body = .effect resetCounter ∨ body = .slot "peer" ∨
      body = .store "peer" 0 := by
  cases offered with
  | method usable =>
    have listed := (List.mem_filter.1 usable).1
    simp only [counterType, List.mem_cons, List.not_mem_nil, or_false] at listed
    rcases listed with rfl | rfl
    · exact .inl rfl
    · exact .inr (.inl rfl)
  | read usable =>
    obtain rfl := List.mem_singleton.1 (List.mem_filter.1 usable).1
    exact .inr (.inr (.inl rfl))
  | write usable write? =>
    obtain rfl := List.mem_singleton.1 (List.mem_filter.1 usable).1
    exact .inr (.inr (.inr (Option.some.inj write?).symm))

theorem eq_counterType {ref : ObjectRef} {type : HostType}
    (declared : TypeTable.typeOf? [counterType] (.object ref) = some type) : type = counterType :=
  List.mem_singleton.1 (List.mem_of_getElem? declared)

theorem effectsConfined_counters : TypeTable.EffectsConfined [counterType] := by
  intro T ref type kind name params run own declared offered arguments admitted
  obtain rfl := eq_counterType declared
  rcases bodies_counterType offered with is | is | is | is
  · cases is
  · cases is
    exact .write own "count" (fun _ => trivial) (fun _ => rfl) fun _ => ⟨rfl, rfl⟩
  · cases is
  · cases is

end ExprScript
