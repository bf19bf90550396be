import ExprScript.Proofs.Host.Keys
import ExprScript.Proofs.Host.Routes

/-!
# Overload policies

Of the methods of one name and as many parameters, either policy selects one that accepts the
arguments, so both find a member for the same uses and by the same route. They select different
methods only where one that is exact stands behind one that is not. A method that is exact is then
selected by the stricter policy, whatever stands around it that is not.
-/

namespace ExprScript

/-! ### Selecting -/

/-- Two public methods of a name that can be used with arguments of these kinds: `m` is exact for
them, and `m'`, which is declared before it, is not. -/
structure HostType.ExactBehind (type : HostType) (name : String) (kinds : List ValueKind)
    (m' m : Method) : Prop where
  place : ∃ before between after, type.methods = before ++ m' :: (between ++ m :: after)
  usable : type.Usable m name kinds
  usable' : type.Usable m' name kinds
  exact : m.isExact kinds = true
  inexact : m'.isExact kinds = false

/-- Elements that two searches find first in a list, where the one search finds no less. -/
theorem find?_cases {α : Type} {p q : α → Bool} {l : List α} {a : α}
    (weaker : ∀ x, p x = true → q x = true) (found : l.find? p = some a) :
    ∃ b, l.find? q = some b ∧ (a = b ∨
      p b = false ∧ ∃ before between after, l = before ++ b :: (between ++ a :: after)) := by
  induction l with
  | nil => cases found
  | cons c l ih =>
    by_cases here : p c = true
    · rw [List.find?_cons_of_pos here] at found
      obtain rfl : c = a := Option.some.inj found
      exact ⟨c, List.find?_cons_of_pos (weaker c here), .inl rfl⟩
    · rw [List.find?_cons_of_neg here] at found
      by_cases here' : q c = true
      · obtain ⟨between, after, rfl⟩ := List.append_of_mem (List.mem_of_find?_eq_some found)
        exact ⟨c, List.find?_cons_of_pos here', .inr ⟨by simpa using here, [], between, after, rfl⟩⟩
      · obtain ⟨b, found', cases⟩ := ih found
        refine ⟨b, by rwa [List.find?_cons_of_neg here'], cases.imp_right ?_⟩
        rintro ⟨not, before, between, after, rfl⟩
        exact ⟨not, c :: before, between, after, rfl⟩

/-- Whether a method is among those of a name and a number of parameters that can be used. -/
def Method.isOverload (m : Method) (name : String) (arity : Nat) : Bool :=
  m.visibility = .visible && (m.name == name && m.params.length == arity)

namespace HostType

variable {type : HostType} {name : String} {kinds : List ValueKind} {m : Method}

theorem overloads_eq (type : HostType) (name : String) (arity : Nat) :
    type.overloads name arity = type.methods.filter (·.isOverload name arity) := by
  rw [overloads, usableMethods, List.filter_filter]
  refine List.filter_congr fun m _ => ?_
  rw [Method.isOverload, Bool.and_comm]

theorem find?_overloads (type : HostType) (name : String) (arity : Nat) (p : Method → Bool) :
    (type.overloads name arity).find? p =
      type.methods.find? fun m => m.isOverload name arity && p m := by
  rw [overloads_eq, List.find?_filter]
  simp only [Bool.decide_and, Bool.decide_eq_true]

theorem usable_of_find? {p : Method → Bool}
    (found : (type.overloads name kinds.length).find? p = some m)
    (accepts : m.accepts kinds = true) : type.Usable m name kinds :=
  usable_iff.2 ⟨List.mem_of_find?_eq_some found, accepts⟩

/-- The policies select the same method, or the one selects an exact method behind that which the
other selects. -/
theorem select?_policies (type : HostType) (name : String) (kinds : List ValueKind) :
    Option.Rel (fun m m' => m = m' ∨ type.ExactBehind name kinds m' m)
      (type.select? .exactThenFirstCompatible name kinds)
      (type.select? .firstCompatible name kinds) := by
  cases found : (type.overloads name kinds.length).find? (·.isExact kinds) with
  | none =>
    have same : type.select? .exactThenFirstCompatible name kinds =
        type.select? .firstCompatible name kinds := by
      simp [select?, found]
    rw [same]
    cases type.select? .firstCompatible name kinds with
    | none => exact .none
    | some m => exact .some (.inl rfl)
  | some m =>
    have exact : m.isExact kinds = true :=
      List.find?_some (p := fun m : Method => m.isExact kinds) found
    have accepts (m : Method)
        (overload : (m.isOverload name kinds.length && m.isExact kinds) = true) :
        (m.isOverload name kinds.length && m.accepts kinds) = true := by
      rw [Bool.and_eq_true] at overload ⊢
      exact ⟨overload.1, Method.accepts_of_isExact overload.2⟩
    obtain ⟨m', found', cases⟩ :=
      find?_cases accepts (found ▸ (find?_overloads type name kinds.length _).symm)
    rw [← find?_overloads] at found'
    have accepts' : m'.accepts kinds = true :=
      List.find?_some (p := fun m : Method => m.accepts kinds) found'
    have selected : type.select? .exactThenFirstCompatible name kinds = some m := by
      simp [select?, found]
    have selected' : type.select? .firstCompatible name kinds = some m' := found'
    rw [selected, selected']
    obtain same | ⟨inexact, place⟩ := cases
    · exact .some (.inl same)
    · have usable := usable_of_find? found (Method.accepts_of_isExact exact)
      have usable' := usable_of_find? found' accepts'
      have overload : m'.isOverload name kinds.length = true := by
        have listed := List.mem_of_find?_eq_some found'
        rw [overloads_eq] at listed
        exact (List.mem_filter.1 listed).2
      have inexact' : m'.isExact kinds = false := by simpa [overload] using inexact
      exact .some (.inr ⟨place, usable, usable', exact, inexact'⟩)

end HostType

/-! ### Answering -/

theorem findSome?_rel {α β γ : Type} {R : β → γ → Prop} {f : α → Option β} {g : α → Option γ}
    {l : List α} (h : ∀ x ∈ l, Option.Rel R (f x) (g x)) :
    Option.Rel R (l.findSome? f) (l.findSome? g) := by
  induction l with
  | nil => exact .none
  | cons x l ih =>
    rw [List.findSome?_cons, List.findSome?_cons]
    have first := h x List.mem_cons_self
    generalize f x = y at first
    generalize g x = z at first
    cases first with
    | none => exact ih fun x listed => h x (List.mem_cons_of_mem _ listed)
    | some related => exact .some related

namespace HostType

variable {type : HostType} {id : TypeId} {name : String} {access : Access}

/-- What answers a use under the one policy and under the other: the same member, or methods that are
selected on the same route, of which the one is exact and the other, in front of it, is not. -/
inductive Alternatives (type : HostType) (id : TypeId) (name : String) (access : Access) :
    Handle → Handle → Prop where
  | same (h : Handle) : Alternatives type id name access h h
  | overloads {called : String} {kinds : List ValueKind} {kind : HandleKind} {m m' : Method}
      (route : .method called kinds kind ∈ access.routes name)
      (behind : type.ExactBehind called kinds m' m) :
      Alternatives type id name access (.through id name m kind) (.through id name m' kind)

/-- Answers to a use under the one policy and under the other: a member is found by both or by
neither. -/
inductive PolicyAnswers (type : HostType) (id : TypeId) (name : String) (access : Access) :
    Except ResolveError Handle → Except ResolveError Handle → Prop where
  | notFound : PolicyAnswers type id name access (.error (.notFound type.name name access))
      (.error (.notFound type.name name access))
  | found {h h' k k' : Handle} (agrees : h.Agrees k) (agrees' : h'.Agrees k')
      (kind : h.kind = h'.kind) (alternatives : type.Alternatives id name access k k') :
      PolicyAnswers type id name access (.ok h) (.ok h')

theorem Alternatives.kind_eq {h h' : Handle}
    (alternatives : type.Alternatives id name access h h') : h.kind = h'.kind := by
  cases alternatives <;> rfl

theorem attempt?_policies {route : Route} (listed : route ∈ access.routes name) :
    Option.Rel (type.Alternatives id name access)
      (type.attempt? .exactThenFirstCompatible id name route)
      (type.attempt? .firstCompatible id name route) := by
  have same (h? : Option Handle) : Option.Rel (type.Alternatives id name access) h? h? := by
    cases h? with
    | none => exact .none
    | some h => exact .some (.same h)
  cases route with
  | read | write => exact same _
  | method called kinds kind =>
    have selected := type.select?_policies called kinds
    change Option.Rel _ (Option.map _ _) (Option.map _ _)
    generalize type.select? .exactThenFirstCompatible called kinds = m? at selected
    generalize type.select? .firstCompatible called kinds = m'? at selected
    cases selected with
    | none => exact .none
    | some related =>
      rcases related with rfl | behind
      · exact same _
      · exact .some (.overloads listed behind)

/-- What is kept makes no difference to how the answers are related. -/
theorem policyAnswers_of_agree {cache cache' : Cache} {answer answer' : Except ResolveError Handle}
    (agree : AnswersAgree answer
      (ResolverOptions.resolveOn ⟨.exactThenFirstCompatible, false⟩ type id name access cache).1)
    (agree' : AnswersAgree answer'
      (ResolverOptions.resolveOn ⟨.firstCompatible, false⟩ type id name access cache').1) :
    type.PolicyAnswers id name access answer answer' := by
  have related : Option.Rel (type.Alternatives id name access)
      ((access.routes name).findSome? (type.attempt? .exactThenFirstCompatible id name))
      ((access.routes name).findSome? (type.attempt? .firstCompatible id name)) :=
    findSome?_rel fun _ listed => attempt?_policies listed
  rw [ResolverOptions.resolveOn_uncached] at agree agree'
  generalize (access.routes name).findSome?
    (type.attempt? .exactThenFirstCompatible id name) = h? at agree related
  generalize (access.routes name).findSome?
    (type.attempt? .firstCompatible id name) = h'? at agree' related
  cases related with
  | none =>
    cases agree
    cases agree'
    exact .notFound
  | some alternatives =>
    cases agree with
    | ok agrees =>
      cases agree' with
      | ok agrees' =>
        have kind := agrees.kind.trans (alternatives.kind_eq.trans agrees'.kind.symm)
        exact .found agrees agrees' kind alternatives

end HostType

/-! ### Overloads that do not count -/

namespace Route

/-- Whether a method is an overload on a route: public, of the name that the route calls and with as
many parameters as it gives arguments. -/
def offers (m : Method) : Route → Bool
  | method called kinds _ => m.isOverload called kinds.length
  | read | write => false

/-- Whether it is one that is exact for the arguments. -/
def offersExact (m : Method) : Route → Bool
  | method called kinds _ => m.isOverload called kinds.length && m.isExact kinds
  | read | write => false

/-- Routes that share no overload. -/
def Apart (route route' : Route) : Prop :=
  ∀ m, route.offers m = true → route'.offers m = false

theorem offers_of_offersExact {route : Route} {m : Method} (exact : route.offersExact m = true) :
    route.offers m = true := by
  cases route with
  | method called kinds kind => exact (Bool.and_eq_true_iff.1 exact).1
  | read | write => cases exact

theorem apart_of_ne {called called' : String} {kinds kinds' : List ValueKind}
    {kind kind' : HandleKind} (other : called ≠ called' ∨ kinds.length ≠ kinds'.length) :
    (method called kinds kind).Apart (method called' kinds' kind') := by
  intro m overload
  by_contra overload'
  simp only [offers, Method.isOverload, Bool.not_eq_false, Bool.and_eq_true, beq_iff_eq]
    at overload overload'
  obtain ⟨⟨-, named, arity⟩, ⟨-, named', arity'⟩⟩ := And.intro overload overload'
  exact other.elim (· (named.symm.trans named')) (· (arity.symm.trans arity'))

end Route

/-- No two routes of a use share an overload. -/
theorem Access.routes_apart (access : Access) (name : String) :
    (access.routes name).Pairwise Route.Apart := by
  have read (route : Route) : route.Apart .read ∧ Route.read.Apart route :=
    ⟨fun _ _ => rfl, nofun⟩
  have write (route : Route) : route.Apart .write ∧ Route.write.Apart route :=
    ⟨fun _ _ => rfl, nofun⟩
  cases access with
  | get =>
    have verbs : accessorName "get" name ≠ accessorName "is" name := by
      intro same
      have letters := congrArg String.toList same
      simp [accessorName] at letters
    have getters : (Route.method (accessorName "get" name) [] .getter).Apart
        (.method (accessorName "is" name) [] .getter) := Route.apart_of_ne (.inl verbs)
    have duck (called : String) : (Route.method called [] .getter).Apart
        (.method "get" [.string] .duckGet) := Route.apart_of_ne (.inr (by simp))
    simp [routes, read, getters, duck]
  | set kind =>
    have duck (called : String) : (Route.method called [kind] .setter).Apart
        (.method "set" [.string, kind] .duckSet) := Route.apart_of_ne (.inr (by simp))
    simp [routes, write, duck]
  | call kinds => exact List.pairwise_singleton ..

/-- A search stays the same when only elements are left out that it would not find. -/
theorem find?_filter_of_imp {α : Type} {p keep : α → Bool} {l : List α}
    (kept : ∀ a, p a = true → keep a = true) : (l.filter keep).find? p = l.find? p := by
  rw [List.find?_filter]
  congr
  funext a
  cases here : p a with
  | false => simp
  | true => simp [kept a here]

namespace HostType

variable {type type' : HostType} {policy : OverloadPolicy} {id : TypeId} {name : String}
  {route : Route} {routes : List Route}

/-- Whether a use depends on a method under the stricter policy. It does on the overloads on its
routes up to the first route with one that is exact, and on this on those that are exact. -/
def decisive (type : HostType) : List Route → Method → Bool
  | [], _ => false
  | route :: later, m =>
    if type.methods.any (route.offersExact ·) then route.offersExact m
    else route.offers m || type.decisive later m

/-- Types that differ only by methods on which a use does not depend, inserted, removed or moved. -/
structure DecidesAlike (type type' : HostType) (routes : List Route) : Prop where
  name : type.name = type'.name
  fields : type.fields = type'.fields
  methods : type.methods.filter (type.decisive routes) =
    type'.methods.filter (type.decisive routes)

/-- An overload that is not exact does not count where there is one that is. -/
theorem decisive_of_inexact (apart : routes.Pairwise Route.Apart) (listed : route ∈ routes)
    {m m' : Method} (declared : m ∈ type.methods) (exact : route.offersExact m = true) (overload : route.offers m' = true)
    (inexact : route.offersExact m' = false) : type.decisive routes m' = false := by
  induction apart with
  | nil => cases listed
  | @cons first later apart _ ih =>
    rcases List.mem_cons.1 listed with rfl | listed
    · have some : type.methods.any (route.offersExact ·) = true :=
        List.any_eq_true.2 ⟨m, declared, exact⟩
      rw [decisive, if_pos some, inexact]
    · have elsewhere : first.offers m' = false := by
        by_contra offered
        have not := apart route listed m' (Bool.of_not_eq_false offered)
        rw [overload] at not
        cases not
      have elsewhere' : first.offersExact m' = false := by
        by_contra exact'
        rw [Route.offers_of_offersExact (Bool.of_not_eq_false exact')] at elsewhere
        cases elsewhere
      rw [decisive, elsewhere, elsewhere', ih listed, Bool.false_or, ite_self]

/-- A search for overloads that count finds the same in types that differ by others. -/
theorem find?_overloads_decisive (alike : type.DecidesAlike type' routes) {called : String}
    {arity : Nat} {p : Method → Bool}
    (counts : ∀ m, (m.isOverload called arity && p m) = true → type.decisive routes m = true) :
    (type.overloads called arity).find? p = (type'.overloads called arity).find? p := by
  rw [find?_overloads, find?_overloads, ← find?_filter_of_imp counts, alike.methods,
    find?_filter_of_imp counts]

/-- The first route leads to the same member. -/
theorem attempt?_decisive (alike : type.DecidesAlike type' (route :: routes)) :
    type.attempt? .exactThenFirstCompatible id name route =
      type'.attempt? .exactThenFirstCompatible id name route := by
  have fields : type.usableFields = type'.usableFields := by
    rw [usableFields, usableFields, alike.fields]
  cases route with
  | read | write => simp only [attempt?, fields]
  | method called kinds kind =>
    have exact : (type.overloads called kinds.length).find? (·.isExact kinds) =
        (type'.overloads called kinds.length).find? (·.isExact kinds) := by
      refine find?_overloads_decisive alike fun m fits => ?_
      have offered : Route.offersExact m (.method called kinds kind) = true := fits
      rw [decisive, offered, Route.offers_of_offersExact offered, Bool.true_or, ite_self]
    have selected : type.select? .exactThenFirstCompatible called kinds =
        type'.select? .exactThenFirstCompatible called kinds := by
      rw [select?, select?, ← exact]
      cases found : (type.overloads called kinds.length).find? (·.isExact kinds) with
      | some m => rfl
      | none =>
        rw [find?_overloads, List.find?_eq_none] at found
        have none : ¬ type.methods.any
            (Route.offersExact · (.method called kinds kind)) = true := by
          simpa [Route.offersExact] using found
        rw [find?_overloads_decisive alike fun m fits => ?_]
        have offered : Route.offers m (.method called kinds kind) = true :=
          (Bool.and_eq_true_iff.1 fits).1
        rw [decisive, if_neg none, offered, Bool.true_or]
    simp only [attempt?, selected]

/-- On a route that leads to no member no method is exact. -/
theorem any_offersExact_of_attempt? (none : type.attempt? policy id name route = none) :
    type.methods.any (route.offersExact ·) = false := by
  by_contra exact
  obtain ⟨m, declared, exact⟩ := List.any_eq_true.1 (Bool.of_not_eq_false exact)
  cases route with
  | read | write => cases exact
  | method called kinds kind =>
    obtain ⟨overload, exact⟩ := Bool.and_eq_true_iff.1 exact
    have overloads : m ∈ type.overloads called kinds.length := by
      rw [overloads_eq]
      exact List.mem_filter.2 ⟨declared, overload⟩
    have usable : type.Usable m called kinds :=
      usable_iff.2 ⟨overloads, Method.accepts_of_isExact exact⟩
    have answered : (type.attempt? policy id name (.method called kinds kind)).isSome :=
      attempt?_of_candidate (.method kind usable)
    rw [none] at answered
    cases answered

/-- By induction on the routes: the first leads to the same member, and when it leads to none the
methods that counted on it count no longer. -/
theorem findSome?_decisive (alike : type.DecidesAlike type' routes) :
    routes.findSome? (type.attempt? .exactThenFirstCompatible id name) =
      routes.findSome? (type'.attempt? .exactThenFirstCompatible id name) := by
  induction routes with
  | nil => rfl
  | cons route later ih =>
    rw [List.findSome?_cons, List.findSome?_cons, ← attempt?_decisive alike]
    cases none : type.attempt? .exactThenFirstCompatible id name route with
    | some h => rfl
    | none =>
      refine ih ⟨alike.name, alike.fields, ?_⟩
      have counts (m : Method) (later' : type.decisive later m = true) :
          type.decisive (route :: later) m = true := by
        rw [decisive, any_offersExact_of_attempt? none, later', Bool.or_true]
        rfl
      have among (l : List Method) : l.filter (type.decisive later) =
          (l.filter (type.decisive (route :: later))).filter (type.decisive later) := by
        rw [List.filter_filter]
        refine List.filter_congr fun m _ => ?_
        cases here : type.decisive later m with
        | false => rfl
        | true => simp [counts m here]
      rw [among, alike.methods, ← among]

end HostType

namespace ResolverOptions

theorem resolveOn_decisive {type type' : HostType} {name : String} {access : Access}
    (alike : type.DecidesAlike type' (access.routes name)) (id : TypeId) (cache : Cache) :
    (resolveOn ⟨.exactThenFirstCompatible, false⟩ type id name access cache).1 =
      (resolveOn ⟨.exactThenFirstCompatible, false⟩ type' id name access cache).1 := by
  simp only [resolveOn_uncached, HostType.findSome?_decisive alike, answerOf, alike.name]

variable {types : TypeTable} {target : Value} {receiver : Receiver} {type : HostType}

/-- Two ways to declare a pen, which differ in the overloads of drawing that are not exact for an
integer and in where they stand. -/
def pens : TypeTable :=
  let floats : Method := ⟨"draw", [.float], .visible, .const (.string "floats")⟩
  let integers : Method := ⟨"draw", [.integer], .visible, .const (.string "integers")⟩
  let anything : Method := ⟨"draw", [.any], .visible, .const (.string "anything")⟩
  [((HostType.named "Pen" .visible).addMethod floats).addMethod integers,
    (((HostType.named "Pen" .visible).addMethod anything).addMethod integers).addMethod floats]

end ResolverOptions

end ExprScript
