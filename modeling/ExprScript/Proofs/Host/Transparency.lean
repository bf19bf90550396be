import Mathlib.Data.List.Forall2
import ExprScript.Engine
import ExprScript.Proofs.Eval.Follows
import ExprScript.Proofs.Host.Caching

/-!
# The cache cannot be observed

Two engines that differ in nothing but whether handles are kept are used by one client: it compiles
sources, evaluates units in contexts of its choice, resolves members and changes its objects, in any
order. What it sees is the same at every step.
-/

namespace ExprScript

variable {policy : OverloadPolicy} {types : TypeTable} {α : Type}

/-- Two worlds with the same host objects, the first with a sound cache. -/
structure World.Alike (policy : OverloadPolicy) (types : TypeTable) (w₁ w₂ : World) : Prop where
  heap : w₁.heap = w₂.heap
  sound : w₁.cache.Sound policy types

/-- Two steps that give the same on worlds that are alike, and leave such worlds. -/
def StepsAlike (policy : OverloadPolicy) (types : TypeTable) (f g : World → α × World) : Prop :=
  ∀ w₁ w₂, w₁.Alike policy types w₂ →
    (f w₁).1 = (g w₂).1 ∧ (f w₁).2.Alike policy types (g w₂).2

/-- Handles that agree do the same to the same objects. -/
theorem StepsAlike.runOn {h h' : Handle} (agrees : h.Agrees h') (target : Value)
    (arguments : List Value) :
    StepsAlike policy types (h.runOn target arguments) (h'.runOn target arguments) := by
  intro w₁ w₂ alike
  unfold Handle.runOn
  cases target.receiver? with
  | none => exact ⟨rfl, alike⟩
  | some receiver =>
    simp only [agrees.invoke, agrees.member, alike.heap]
    exact ⟨trivial, rfl, alike.sound⟩

/-- The resolver of a set of types, with a cache or without. -/
abbrev resolverOf (policy : OverloadPolicy) (types : TypeTable) (caching : Bool) : Resolver :=
  ResolverOptions.resolver ⟨policy, caching⟩ types

namespace Resolver

/-- Both resolvers fail with one error, or they find handles that agree. -/
theorem resolve_cases {w₁ w₂ : World} (alike : w₁.Alike policy types w₂) (target : Value)
    (name : String) (access : Access) :
    (∃ e c₁ c₂, resolverOf policy types true target name access w₁.cache = (.error e, c₁) ∧
      resolverOf policy types false target name access w₂.cache = (.error e, c₂) ∧
      World.Alike policy types { w₁ with cache := c₁ } { w₂ with cache := c₂ }) ∨
    ∃ h h' c₁ c₂, resolverOf policy types true target name access w₁.cache = (.ok h, c₁) ∧
      resolverOf policy types false target name access w₂.cache = (.ok h', c₂) ∧ h.Agrees h' ∧
      World.Alike policy types { w₁ with cache := c₁ } { w₂ with cache := c₂ } := by
  obtain ⟨agree, sound⟩ :=
    ResolverOptions.resolver_agrees alike.sound target name access w₂.cache
  unfold resolverOf
  generalize ResolverOptions.resolver ⟨policy, true⟩ types target name access w₁.cache = r₁
    at agree sound ⊢
  generalize ResolverOptions.resolver ⟨policy, false⟩ types target name access w₂.cache = r₂
    at agree ⊢
  obtain ⟨x, c₁⟩ := r₁
  obtain ⟨y, c₂⟩ := r₂
  have kept : World.Alike policy types { w₁ with cache := c₁ } { w₂ with cache := c₂ } :=
    ⟨alike.heap, sound⟩
  cases agree with
  | ok agrees => exact .inr ⟨_, _, c₁, c₂, rfl, rfl, agrees, kept⟩
  | error e => exact .inl ⟨e, c₁, c₂, rfl, rfl, kept⟩

theorem useMember_alike (target : Value) (name : String) (access : Access)
    (arguments : List Value) :
    StepsAlike policy types
      ((resolverOf policy types true).useMember target name access arguments)
      ((resolverOf policy types false).useMember target name access arguments) := by
  intro w₁ w₂ alike
  unfold useMember
  split
  · exact ⟨rfl, alike⟩
  · rcases resolve_cases alike target name access with
      ⟨e, c₁, c₂, h₁, h₂, kept⟩ | ⟨h, h', c₁, c₂, h₁, h₂, agrees, kept⟩
    · rw [h₁, h₂]
      exact ⟨rfl, kept⟩
    · rw [h₁, h₂]
      exact StepsAlike.runOn agrees target arguments _ _ kept

/-- Whatever is used, both resolvers have it do the same. -/
theorem resolver_coupled : Coupled (World.Alike policy types) (fun _ => True)
    (resolverOf policy types true) (resolverOf policy types false) := by
  intro target name use _ _ w₁ w₂ alike
  rcases resolve_cases alike target name use.access with
    ⟨e, c₁, c₂, h₁, h₂, kept⟩ | ⟨h, h', c₁, c₂, h₁, h₂, agrees, kept⟩
  · rw [h₁, h₂]
    exact .error kept
  · rw [h₁, h₂]
    obtain ⟨same, kept⟩ := StepsAlike.runOn agrees target use.arguments _ _ kept
    exact .ok ⟨same, fun _ _ => trivial, kept⟩

theorem applyBuiltin_alike (function : Builtin) (argument : Value) :
    StepsAlike policy types ((resolverOf policy types true).applyBuiltin function argument)
      ((resolverOf policy types false).applyBuiltin function argument) := by
  intro w₁ w₂ alike
  obtain ⟨same, -, kept⟩ :=
    resolver_coupled.applyBuiltin (fun _ => trivial) function trivial alike
  exact ⟨same, kept⟩

end Resolver

/-- Runs with a cache and without: they bind the same variables and have worlds that are alike. No
error is excused. -/
def Comparison.caching (policy : OverloadPolicy) (types : TypeTable) : Comparison where
  excused _ := False
  related s₁ s₂ := s₁.context = s₂.context ∧ s₁.world.Alike policy types s₂.world
  context_eq related := related.1
  insert name v related := ⟨by rw [related.1], related.2⟩

theorem StepsAlike.follows {f g : World → Except EvalCause α × World}
    (h : StepsAlike policy types f g) (span : Span) :
    Eval.Follows (.caching policy types) (Eval.attemptOn span f) (Eval.attemptOn span g) := by
  intro s₁ s₂ related
  obtain ⟨same, kept⟩ := h s₁.world s₂.world related.2
  exact .inr ⟨congrArg (Eval.blame span) same, related.1, kept⟩

/-- The engine of a set of types that keeps handles, or does not. -/
def Engine.withCaching (strict : Bool) (policy : OverloadPolicy) (types : TypeTable) (rounds : Nat)
    (caching : Bool) : Engine :=
  .ofTypes { strict, policy, caching } types rounds

theorem Engine.caching_follows (strict : Bool) (policy : OverloadPolicy) (types : TypeTable)
    (rounds : Nat) :
    (withCaching strict policy types rounds true).setting.Follows (.caching policy types)
      (withCaching strict policy types rounds false).setting where
  rounds := rfl
  variableValue _ _ _ := .attempt (.inr rfl)
  binary _ _ _ _ := .attempt (.inr rfl)
  unary _ _ _ := .attempt (.inr rfl)
  useMember span target name access arguments :=
    (Resolver.useMember_alike target name access arguments).follows span
  builtin span function argument := (Resolver.applyBuiltin_alike function argument).follows span

theorem Engine.evaluate_follows (strict : Bool) (policy : OverloadPolicy) (types : TypeTable)
    (rounds : Nat) (unit : CompiledUnit) :
    Eval.Follows (.caching policy types)
      ((withCaching strict policy types rounds true).evaluate unit)
      ((withCaching strict policy types rounds false).evaluate unit) :=
  (caching_follows strict policy types rounds).tree unit.tree

/-- What a client of an engine holds: units and contexts by name, and the world. -/
structure Client where
  units : Table String CompiledUnit
  contexts : Table String Context
  world : World

/-- What a client asks of an engine. -/
inductive Request where
  | compile (unit : String) (source : List Char) (mode : Mode)
  /-- Evaluates a unit in a context; a context not used before is empty. -/
  | evaluate (unit context : String)
  | resolve (target : Value) (member : String) (access : Access)
  /-- Changes contexts and host objects without asking the engine. -/
  | change (update : Table String Context → Heap → Table String Context × Heap)

/-- What a client is told. -/
inductive Reply where
  | compiled (result : Except CompileError CompiledUnit)
  | evaluated (outcome : Outcome Value)
  | resolved (answer : Except ResolveError Handle)
  | unknownUnit
  | changed

/-- Replies that a client cannot tell apart. -/
inductive Reply.Agrees : Reply → Reply → Prop where
  | same {x y} : x = y → Agrees x y
  | resolved {x y} : AnswersAgree x y → Agrees (.resolved x) (.resolved y)

namespace Client

/-- Answers a request. -/
def step (engine : Engine) (client : Client) : Request → Reply × Client
  | .compile unit source mode =>
    let result := compile source mode
    let units := match result with
      | .ok compiled => client.units.insert unit compiled
      | .error _ => client.units
    (.compiled result, { client with units })
  | .evaluate unit context =>
    match client.units.get? unit with
    | none => (.unknownUnit, client)
    | some compiled =>
      let bound := (client.contexts.get? context).getD .empty
      let (outcome, s) := engine.evaluate compiled ⟨bound, client.world⟩
      (.evaluated outcome,
        { client with contexts := client.contexts.insert context s.context, world := s.world })
  | .resolve target member access =>
    let (answer, cache) := engine.resolver target member access client.world.cache
    (.resolved answer, { client with world := { client.world with cache } })
  | .change update =>
    let (contexts, heap) := update client.contexts client.world.heap
    (.changed, { client with contexts, world := { client.world with heap } })

/-- What a client can see after a request: the reply, its contexts and the host objects. -/
structure View where
  reply : Reply
  contexts : Table String Context
  heap : Heap

/-- Answers requests in order, with the view after each. -/
def run (engine : Engine) (client : Client) : List Request → List View
  | [] => []
  | request :: rest =>
    let (reply, next) := client.step engine request
    ⟨reply, next.contexts, next.world.heap⟩ :: next.run engine rest

/-- Views that a client cannot tell apart. -/
structure View.Agrees (v w : View) : Prop where
  reply : v.reply.Agrees w.reply
  contexts : v.contexts = w.contexts
  heap : v.heap = w.heap

/-- Clients with the same units and contexts in worlds that are alike. -/
structure Alike (policy : OverloadPolicy) (types : TypeTable) (c₁ c₂ : Client) : Prop where
  units : c₁.units = c₂.units
  contexts : c₁.contexts = c₂.contexts
  world : c₁.world.Alike policy types c₂.world

theorem step_evaluate (engine : Engine) (client : Client) {unit context : String}
    {compiled : CompiledUnit} (found : client.units.get? unit = some compiled) :
    client.step engine (.evaluate unit context) =
      let bound := (client.contexts.get? context).getD .empty
      let after := engine.evaluate compiled ⟨bound, client.world⟩
      (.evaluated after.1,
        { client with contexts := client.contexts.insert context after.2.context,
                      world := after.2.world }) := by
  simp only [step, found]

theorem step_alike {c₁ c₂ : Client} (alike : c₁.Alike policy types c₂) (strict : Bool)
    (rounds : Nat) (request : Request) :
    (c₁.step (.withCaching strict policy types rounds true) request).1.Agrees
        (c₂.step (.withCaching strict policy types rounds false) request).1 ∧
      (c₁.step (.withCaching strict policy types rounds true) request).2.Alike policy types
        (c₂.step (.withCaching strict policy types rounds false) request).2 := by
  obtain ⟨units, contexts, w₁⟩ := c₁
  obtain ⟨units', contexts', w₂⟩ := c₂
  obtain ⟨sameUnits, sameContexts, world⟩ := alike
  obtain rfl : units = units' := sameUnits
  obtain rfl : contexts = contexts' := sameContexts
  cases request with
  | compile unit source mode => exact ⟨.same rfl, rfl, rfl, world⟩
  | evaluate unit context =>
    cases found : units.get? unit with
    | none =>
      simp only [step, found]
      exact ⟨.same rfl, rfl, rfl, world⟩
    | some compiled =>
      have follows := Engine.evaluate_follows strict policy types rounds compiled
        ⟨(contexts.get? context).getD .empty, w₁⟩ ⟨(contexts.get? context).getD .empty, w₂⟩
        ⟨rfl, world⟩
      rw [step_evaluate _ _ found, step_evaluate _ _ found]
      rcases follows with ⟨_, _, never⟩ | ⟨ends, bound, kept⟩
      · exact never.elim
      · exact ⟨.same (congrArg Reply.evaluated ends), rfl,
          congrArg (contexts.insert context) bound, kept⟩
  | resolve target member access =>
    obtain ⟨agree, sound⟩ :=
      ResolverOptions.resolver_agrees world.sound target member access w₂.cache
    exact ⟨.resolved agree, rfl, rfl, world.heap, sound⟩
  | change update =>
    have heap : w₁.heap = w₂.heap := world.heap
    simp only [step, heap]
    exact ⟨.same rfl, rfl, rfl, rfl, world.sound⟩

theorem run_agrees {c₁ c₂ : Client} (alike : c₁.Alike policy types c₂) (strict : Bool)
    (rounds : Nat) (requests : List Request) :
    List.Forall₂ View.Agrees (c₁.run (.withCaching strict policy types rounds true) requests)
      (c₂.run (.withCaching strict policy types rounds false) requests) := by
  induction requests generalizing c₁ c₂ with
  | nil => exact .nil
  | cons request rest ih =>
    obtain ⟨agrees, next⟩ := step_alike alike strict rounds request
    exact .cons ⟨agrees, next.contexts, next.world.heap⟩ (ih next)

end Client

/-- Whether an engine keeps handles makes no difference to what any client sees at any step. -/
theorem cache_transparent (types : TypeTable) (policy : OverloadPolicy) (strict : Bool)
    (rounds : Nat) (units : Table String CompiledUnit) (contexts : Table String Context)
    (heap : Heap) (requests : List Request) :
    List.Forall₂ Client.View.Agrees
      (Client.run (.withCaching strict policy types rounds true)
        ⟨units, contexts, heap, .empty⟩ requests)
      (Client.run (.withCaching strict policy types rounds false)
        ⟨units, contexts, heap, .empty⟩ requests) :=
  Client.run_agrees ⟨rfl, rfl, rfl, Cache.sound_empty⟩ strict rounds requests

end ExprScript
