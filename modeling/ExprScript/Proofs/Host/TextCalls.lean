import ExprScript.Proofs.Host.Requests
import ExprScript.Proofs.Host.Routes

/-!
# Calls of the members of strings

A string has the same members in every world. So what a call on it gives can be told once and for
all: it is what the member of this name does to the characters of the string.
-/

namespace ExprScript

/-! ### What a call gives -/

/-- `target.Answers method arguments result`: a call on the value gives this result whichever types
are declared, however members are chosen and kept, whichever were asked for before and whatever the
objects hold. The call is one more of those asked for, and no object is changed. -/
def Value.Answers (target : Value) (method : String) (arguments : List Value)
    (result : Except EvalCause Value) : Prop :=
  ∀ (options : ResolverOptions) (types : TypeTable) (asked : List (Value × String × Access))
    (heap : Heap),
    (options.resolver types).useMember target method (.ofArguments arguments) arguments
        ⟨heap, options.cacheAfter types .empty asked⟩ =
      (result, ⟨heap, options.cacheAfter types .empty
        (asked ++ [(target, method, .ofArguments arguments)])⟩)

/-- A call has one result. -/
theorem Value.Answers.eq {target : Value} {method : String} {arguments : List Value}
    {result result' : Except EvalCause Value} (h : target.Answers method arguments result)
    (h' : target.Answers method arguments result') : result = result' := by
  have first := h ⟨.firstCompatible, false⟩ [] [] .empty
  have second := h' ⟨.firstCompatible, false⟩ [] [] .empty
  exact congrArg Prod.fst (first.symm.trans second)

theorem AnswersAgree.exists_of_ok {answer : Except ResolveError Handle} {h : Handle}
    (agree : AnswersAgree answer (.ok h)) : ∃ h', answer = .ok h' ∧ h'.Agrees h := by
  cases agree with
  | ok agrees => exact ⟨_, rfl, agrees⟩

/-! ### Members of strings -/

namespace TextMember

/-- A member as a method of the type of strings. -/
def method (member : TextMember) : Method := ⟨member.name, member.params, .visible, .text member⟩

/-- No two members have one name and one number of parameters. -/
theorem overloads_text (member : TextMember) :
    HostType.text.overloads member.name member.params.length = [member.method] := by
  cases member <;> rfl

/-- So either policy selects a member for all arguments that it accepts. -/
theorem select?_text (member : TextMember) (policy : OverloadPolicy) {kinds : List ValueKind}
    (accepted : List.Forall₂ (fun p k => p.accepts k = true) member.params kinds) :
    HostType.text.select? policy member.name kinds = some member.method := by
  have accepts : member.method.accepts kinds = true :=
    List.all_eq_true.2 fun pair listed => (List.forall₂_iff_zip.1 accepted).2 listed
  cases policy with
  | firstCompatible =>
    simp [HostType.select?, ← accepted.length_eq, overloads_text, accepts]
  | exactThenFirstCompatible =>
    cases exact : member.method.isExact kinds <;>
      simp [HostType.select?, ← accepted.length_eq, overloads_text, accepts, exact]

/-- No member widens its arguments. -/
theorem coerce_params (member : TextMember) {p : ParamType} (listed : p ∈ member.params)
    (v : Value) : p.coerce v = v := by
  have other : p ≠ .float := by
    rintro rfl
    cases member <;> simp [params] at listed
  cases p <;> first | rfl | exact absurd rfl other

theorem zipWith_coerce (member : TextMember) {arguments : List Value}
    (count : arguments.length = member.params.length) :
    List.zipWith ParamType.coerce member.params arguments = arguments := by
  refine List.ext_getElem (by simp [count]) fun i inside inside' => ?_
  rw [List.getElem_zipWith]
  exact member.coerce_params (List.getElem_mem _) _

/-- The arguments of a member are passed to it as they are. -/
theorem invoke_through (member : TextMember) (s : String) (name : String) {arguments : List Value}
    (count : arguments.length = member.params.length) (heap : Heap) :
    (Handle.through .text name member.method .method).invoke (.text s) arguments heap =
      (member.run s.toList arguments, heap) := by
  have passed : (Handle.through .text name member.method .method).passed arguments = arguments :=
    (Handle.coerced_eq count).trans (member.zipWith_coerce count)
  rw [Handle.invoke, passed]
  rfl

/-- A call on a string with arguments that a member accepts does what the member does. -/
theorem answers (member : TextMember) (s : String) {arguments : List Value}
    (accepted : List.Forall₂ (fun p v => p.accepts v.kind = true) member.params arguments) :
    (Value.string s).Answers member.name arguments
      ((member.run s.toList arguments).mapError (.invocation member.name)) := by
  intro options types asked heap
  have selected : HostType.text.select? options.policy member.name (arguments.map Value.kind) =
      some member.method :=
    member.select?_text options.policy (List.forall₂_map_right_iff.2 accepted)
  have receives : (Value.string s).receiver? = some (.text s) := rfl
  have declared : types.typeOf? (.text s) = some HostType.text := rfl
  have agree := options.resolver_agrees_uncached asked receives declared member.name
    (.ofArguments arguments)
  have call : Access.ofArguments arguments = .call (arguments.map Value.kind) := rfl
  rw [ResolverOptions.resolveOn_uncached, call, Access.routes, List.findSome?_cons,
    HostType.attempt?, selected] at agree
  obtain ⟨h, found, agrees⟩ := agree.exists_of_ok
  have ran := (agrees.invoke (.text s) arguments heap).trans
    (member.invoke_through s member.name accepted.length_eq.symm heap)
  rw [Resolver.useMember_of_found receives found, options.cacheAfter_append, ran, agrees.member]
  rfl

section

variable (member : TextMember) {s : String} {arguments : List Value}
  (accepted : List.Forall₂ (fun p v => p.accepts v.kind = true) member.params arguments)

include accepted

theorem answers_ok {v : Value} (ran : member.run s.toList arguments = .ok v) :
    (Value.string s).Answers member.name arguments (.ok v) := by
  have given := member.answers s accepted
  rwa [ran] at given

/-- An error of a member is told with the name of the member. -/
theorem answers_error {e : HostError} (ran : member.run s.toList arguments = .error e) :
    (Value.string s).Answers member.name arguments (.error (.invocation member.name e)) := by
  have given := member.answers s accepted
  rwa [ran] at given

end

end TextMember

end ExprScript
