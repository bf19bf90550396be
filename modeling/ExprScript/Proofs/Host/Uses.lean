import ExprScript.Eval.Member

/-!
# Uses of members in two worlds

Members are found and run in two worlds. When what is found for a use does the same in both, then so
do the builtins, which call methods of the host. Which worlds are related and which values may turn
up in them is left open.
-/

namespace ExprScript

/-- A use of a member together with the values it is made with. -/
inductive Use where
  | get
  | set (value : Value)
  | call (arguments : List Value)

namespace Use

def access : Use → Access
  | get => .get
  | set value => .set value.kind
  | call arguments => .ofArguments arguments

def arguments : Use → List Value
  | get => []
  | set value => [value]
  | call arguments => arguments

end Use

/-- A computation whose value, if it gives one, satisfies a condition. -/
def Ensures {ε α : Type} (post : α → Prop) (x : Except ε α) : Prop := ∀ a, x = .ok a → post a

namespace Ensures

variable {ε ε' α β : Type} {post : α → Prop} {x : Except ε α}

theorem ok {a : α} (h : post a) : Ensures post (.ok a : Except ε α) := by
  rintro _ ⟨⟩
  exact h

theorem error (e : ε) : Ensures post (.error e : Except ε α) := by
  rintro _ ⟨⟩

theorem bind {f : α → Except ε β} {post' : β → Prop} (h : ∀ a, x = .ok a → Ensures post' (f a)) :
    Ensures post' (x >>= f) := by
  cases x with
  | ok a => exact h a rfl
  | error e => exact error e

theorem map {f : α → β} {post' : β → Prop} (h : ∀ a, x = .ok a → post' (f a)) :
    Ensures post' (x.map f) := by
  cases x with
  | ok a => exact ok (h a rfl)
  | error e => exact error e

theorem mapError (f : ε → ε') (h : Ensures post x) : Ensures post (x.mapError f) := by
  cases x with
  | ok a => exact ok (h a rfl)
  | error e => exact error _

end Ensures

variable {rel : World → World → Prop} {admits : Value → Prop} {α β : Type}

/-- Two steps end alike, with what satisfies a condition and in related worlds. -/
structure Paired (rel : World → World → Prop) (post : α → Prop) (x y : α × World) : Prop where
  same : x.1 = y.1
  holds : post x.1
  related : rel x.2 y.2

/-- The answers to one request in two worlds: the same error, or handles that do the same. -/
inductive AnswersPaired (rel : World → World → Prop) (admits : Value → Prop) (target : Value)
    (arguments : List Value) (w₁ w₂ : World) :
    Except ResolveError Handle × Cache → Except ResolveError Handle × Cache → Prop where
  | error {e c₁ c₂} : rel { w₁ with cache := c₁ } { w₂ with cache := c₂ } →
    AnswersPaired rel admits target arguments w₁ w₂ (.error e, c₁) (.error e, c₂)
  | ok {h h' c₁ c₂} :
    Paired rel (Ensures admits) (h.runOn target arguments { w₁ with cache := c₁ })
      (h'.runOn target arguments { w₂ with cache := c₂ }) →
    AnswersPaired rel admits target arguments w₁ w₂ (.ok h, c₁) (.ok h', c₂)

/-- Uses of admitted values by two resolvers in related worlds do the same. -/
def Resolver.Coupled (rel : World → World → Prop) (admits : Value → Prop) (r₁ r₂ : Resolver) :
    Prop :=
  ∀ target name (use : Use), admits target → (∀ v ∈ use.arguments, admits v) →
    ∀ w₁ w₂, rel w₁ w₂ → AnswersPaired rel admits target use.arguments w₁ w₂
      (r₁ target name use.access w₁.cache) (r₂ target name use.access w₂.cache)

namespace Resolver.Coupled

variable {r₁ r₂ : Resolver} {target argument : Value} {w₁ w₂ : World}

theorem useMember (h : Resolver.Coupled rel admits r₁ r₂) (name : String) (use : Use)
    (admitted : admits target) (passed : ∀ v ∈ use.arguments, admits v) (related : rel w₁ w₂) :
    Paired rel (Ensures admits) (r₁.useMember target name use.access use.arguments w₁)
      (r₂.useMember target name use.access use.arguments w₂) := by
  unfold Resolver.useMember
  split
  · exact ⟨rfl, .error _, related⟩
  · have answers := h target name use admitted passed w₁ w₂ related
    generalize r₁ target name use.access w₁.cache = x at answers ⊢
    generalize r₂ target name use.access w₂.cache = y at answers ⊢
    cases answers with
    | error related => exact ⟨rfl, .error _, related⟩
    | ok paired => exact paired

/-- The value of a call of a method that may be missing. -/
theorem callIfPresent (h : Resolver.Coupled rel admits r₁ r₂) (name : String)
    (admitted : admits target) (related : rel w₁ w₂) :
    Paired rel (Ensures fun found => ∀ v, found = some v → admits v)
      (r₁.callIfPresent target name w₁) (r₂.callIfPresent target name w₂) := by
  unfold Resolver.callIfPresent
  have answers := h target name (.call []) admitted (by simp [Use.arguments]) w₁ w₂ related
  change AnswersPaired _ _ _ [] _ _ (r₁ target name (.call []) w₁.cache)
    (r₂ target name (.call []) w₂.cache) at answers
  generalize r₁ target name (.call []) w₁.cache = x at answers ⊢
  generalize r₂ target name (.call []) w₂.cache = y at answers ⊢
  cases answers with
  | error related => exact ⟨rfl, .ok (by simp), related⟩
  | ok paired =>
    obtain ⟨same, holds, related⟩ := paired
    refine ⟨congrArg (Except.map some) same, .map fun v ran w is => ?_, related⟩
    cases is
    exact holds v ran

variable (plain : ∀ {v : Value}, v.asObject? = none → admits v)

include plain

theorem sizeOf (h : Resolver.Coupled rel admits r₁ r₂) (admitted : admits argument)
    (related : rel w₁ w₂) :
    Paired rel (Ensures admits) (r₁.sizeOf argument w₁) (r₂.sizeOf argument w₂) := by
  cases argument with
  | object ref =>
    have called := h.callIfPresent "size" admitted related
    unfold Resolver.sizeOf
    generalize r₁.callIfPresent (.object ref) "size" w₁ = x at called ⊢
    generalize r₂.callIfPresent (.object ref) "size" w₂ = y at called ⊢
    obtain ⟨result, w₁⟩ := x
    obtain ⟨result', w₂⟩ := y
    obtain ⟨rfl, holds, related⟩ := called
    rcases result with e | _ | size
    · exact ⟨rfl, .error e, related⟩
    · exact ⟨rfl, .error _, related⟩
    · exact ⟨rfl, .ok (holds _ rfl size rfl), related⟩
  | null | string => exact ⟨rfl, .ok (plain rfl), related⟩
  | boolean | integer | float => exact ⟨rfl, .error _, related⟩

omit plain in
theorem isEmpty (h : Resolver.Coupled rel admits r₁ r₂) (admitted : admits argument)
    (related : rel w₁ w₂) :
    Paired rel (fun _ => True) (r₁.isEmpty argument w₁) (r₂.isEmpty argument w₂) := by
  cases argument with
  | object ref =>
    have called := h.callIfPresent "isEmpty" admitted related
    unfold Resolver.isEmpty
    generalize r₁.callIfPresent (.object ref) "isEmpty" w₁ = x at called ⊢
    generalize r₂.callIfPresent (.object ref) "isEmpty" w₂ = y at called ⊢
    obtain ⟨result, w₁⟩ := x
    obtain ⟨result', w₂⟩ := y
    obtain ⟨rfl, -, related⟩ := called
    rcases result with e | _ | found
    · exact ⟨rfl, trivial, related⟩
    · obtain ⟨same, -, related⟩ := h.callIfPresent "size" admitted related
      exact ⟨congrArg (Except.map _) same, trivial, related⟩
    · exact ⟨rfl, trivial, related⟩
  | null | string | boolean | integer | float => exact ⟨rfl, trivial, related⟩

theorem applyBuiltin (h : Resolver.Coupled rel admits r₁ r₂) (function : Builtin)
    (admitted : admits argument) (related : rel w₁ w₂) :
    Paired rel (Ensures admits) (r₁.applyBuiltin function argument w₁)
      (r₂.applyBuiltin function argument w₂) := by
  cases function with
  | size => exact h.sizeOf plain admitted related
  | empty =>
    obtain ⟨same, -, related⟩ := h.isEmpty admitted related
    exact ⟨congrArg (Except.map Value.boolean) same, .map fun _ _ => plain rfl, related⟩

end Resolver.Coupled

end ExprScript
