import Mathlib.Data.List.Basic
import Mathlib.Data.List.Induction
import ExprScript.Engine
import ExprScript.Proofs.Eval.Sequencing
import ExprScript.Proofs.Eval.Visits

/-!
# Paths

A path is a variable and members one behind the other. When its variable is unbound, a front of the
path may be bound as a whole, under its dotted name. The longest such front is looked up and the
members behind it are read; this is so for every path, wherever it stands as a target.
-/

namespace ExprScript

/-- The members of a path, each with the span of the path up to it. -/
abbrev Members := List (Span × Name Span)

/-- A variable and members one behind the other. -/
def Expr.path (root : Name Span) (members : Members) : Expr Span :=
  members.foldl (fun target m => .get m.1 target m.2) (.var root)

/-- The names of a path with points between them. -/
def Expr.pathName (root : Name Span) (members : Members) : String :=
  members.foldl (fun path m => path ++ "." ++ m.2.text) root.text

/-- Reads members one behind the other, the first of a value. -/
def Setting.readAll (setting : Setting) (v : Value) : Members → Eval Value
  | [] => return v
  | m :: rest => do
    let member ← setting.read m.1 v m.2.text
    setting.readAll member rest

/-- No front of some members is bound as a whole behind others. -/
def Context.BindsNone (context : Context) (root : Name Span) (before members : Members) : Prop :=
  ∀ front, front ≠ [] → front <+: members → context.get? (Expr.pathName root (before ++ front)) = none

/-- What a path has to give: the rule of the longest bound front. -/
inductive Setting.PathRule (setting : Setting) (context : Context) (root : Name Span)
    (members : Members) : Eval Value → Prop where
  /-- A bound variable is taken, whatever dotted names are bound. -/
  | variable {v : Value} (bound : context.get? root.text = some v) :
    PathRule setting context root members (setting.readAll v members)
  /-- Of an unbound variable the longest front that is bound is taken, be it to null. -/
  | front {front behind : Members} {v : Value} (unbound : context.get? root.text = none)
    (split : members = front ++ behind) (filled : front ≠ [])
    (bound : context.get? (Expr.pathName root front) = some v)
    (longest : context.BindsNone root front behind) :
    PathRule setting context root members (setting.readAll v behind)
  /-- Without one, the variable is at fault in strict mode, else the access to its first member. -/
  | nothing {span : Span} {first : Name Span} {rest : Members}
    (unbound : context.get? root.text = none) (split : members = (span, first) :: rest)
    (nowhere : context.BindsNone root [] members) :
    PathRule setting context root members
      (if setting.strict then Eval.attempt root.span (.error (.undefinedVariable root.text))
      else Eval.attempt span (.error (.nullAccess first.text)))

/-- What an expression does with the value of its target. -/
inductive Setting.Continues (setting : Setting) (target : Expr Span) :
    Expr Span → (Value → Eval Value) → Prop where
  | index (span : Span) (key : Expr Span) :
    Continues setting target (.index span target key) fun object => do
      let name ← setting.expression key
      setting.read span object name.render
  | assignMember (span : Span) (member : Name Span) (value : Expr Span) :
    Continues setting target (.assignMember span target member value) fun object => do
      let v ← setting.expression value
      setting.write span object member.text v
  | assignIndex (span : Span) (key value : Expr Span) :
    Continues setting target (.assignIndex span target key value) fun object => do
      let name ← setting.expression key
      let v ← setting.expression value
      setting.write span object name.render v
  | call (span : Span) (method : Name Span) (arguments : List (Expr Span)) :
    Continues setting target (.call span target method arguments) fun object => do
      let values ← setting.expressions arguments
      Eval.attemptOn method.span
        (setting.resolve.useMember object method.text (.ofArguments values) values)

section

variable {root : Name Span} {front behind members : Members} {span : Span} {member : Name Span}

namespace Expr

theorem path_concat : path root (members ++ [(span, member)]) =
    .get span (path root members) member := by
  simp [path]

theorem pathName_concat : pathName root (members ++ [(span, member)]) =
    pathName root members ++ "." ++ member.text := by
  simp [pathName]

theorem pathRoot?_path (root : Name Span) (members : Members) :
    (path root members).pathRoot? = some root.text := by
  induction members using List.reverseRecOn with
  | nil => rfl
  | append_singleton members m ih => rw [path_concat, pathRoot?, ih]

theorem dottedPath?_path (root : Name Span) (members : Members) :
    (path root members).dottedPath? = some (pathName root members) := by
  induction members using List.reverseRecOn with
  | nil => rfl
  | append_singleton members m ih => rw [path_concat, dottedPath?, ih, pathName_concat]; rfl

end Expr

namespace Context

variable {context : Context}

theorem dotted?_path (context : Context) (root : Name Span) (members : Members) :
    context.dotted? (.path root members) =
      if context.contains root.text then none else context.get? (Expr.pathName root members) := by
  rw [dotted?, Expr.pathRoot?_path, Expr.dottedPath?_path]

theorem dotted?_of_bound {v : Value} (bound : context.get? root.text = some v)
    (members : Members) : context.dotted? (.path root members) = none := by
  rw [dotted?_path, Table.contains, bound]
  rfl

theorem dotted?_of_unbound (unbound : context.get? root.text = none) (members : Members) :
    context.dotted? (.path root members) = context.get? (Expr.pathName root members) := by
  rw [dotted?_path, Table.contains, unbound]
  rfl

theorem BindsNone.cons {m : Span × Name Span} (h : context.BindsNone root front (m :: behind)) :
    context.BindsNone root (front ++ [m]) behind := by
  intro more _ part
  rw [List.append_assoc]
  exact h ([m] ++ more) (by simp) ((List.prefix_append_right_inj [m]).2 part)

/-- Either no front is bound, or one that no longer one is bound behind. -/
theorem bindsNone_or_longest (context : Context) (root : Name Span) (members : Members) :
    context.BindsNone root [] members ∨ ∃ front behind v, members = front ++ behind ∧ front ≠ [] ∧
      context.get? (Expr.pathName root front) = some v ∧ context.BindsNone root front behind := by
  induction members using List.reverseRecOn with
  | nil => exact .inl fun front filled part => absurd (List.prefix_nil.1 part) filled
  | append_singleton members m ih =>
    cases whole : context.get? (Expr.pathName root (members ++ [m])) with
    | some v =>
      refine .inr ⟨members ++ [m], [], v, by simp, by simp, whole, fun more filled part => ?_⟩
      exact absurd (List.prefix_nil.1 part) filled
    | none =>
      rcases ih with nothing | ⟨front, behind, v, rfl, filled, bound, longest⟩
      · refine .inl fun more filled part => ?_
        rcases List.prefix_concat_iff.1 part with rfl | part
        · exact whole
        · exact nothing more filled part
      · refine .inr ⟨front, behind ++ [m], v, by simp, filled, bound, fun more filled part => ?_⟩
        rcases List.prefix_concat_iff.1 part with rfl | part
        · rwa [← List.append_assoc]
        · exact longest more filled part

end Context

namespace Setting

variable {setting : Setting} {s : State}

theorem readAll_concat (v : Value) (members : Members) :
    setting.readAll v (members ++ [(span, member)]) =
      setting.readAll v members >>= fun object => setting.read span object member.text := by
  induction members generalizing v with
  | nil => exact Eval.bind_pure _
  | cons m rest ih =>
    rw [List.cons_append, readAll, readAll, Eval.bind_assoc]
    congr
    funext object
    exact ih object

theorem bind_congr_at {α β : Type} {m m' : Eval α} (same : m s = m' s) (f : α → Eval β) :
    (m >>= f) s = (m' >>= f) s := by
  simp only [Bind.bind, same]

/-- Behind a front, members are read as long as no longer front is bound as a whole. -/
theorem expression_path_append {m : Eval Value} (base : setting.expression (.path root front) s = m s)
    (apart : ∀ more, more ≠ [] → more <+: behind →
      s.context.dotted? (.path root (front ++ more)) = none) :
    setting.expression (.path root (front ++ behind)) s =
      (m >>= fun v => setting.readAll v behind) s := by
  induction behind using List.reverseRecOn with
  | nil =>
    rw [List.append_nil, base]
    exact congrFun (Eval.bind_pure m).symm s
  | append_singleton behind last ih =>
    obtain ⟨span, member⟩ := last
    have before := ih fun more filled part => apart more filled (part.trans (List.prefix_append _ _))
    have whole := apart (behind ++ [(span, member)]) (by simp) (List.prefix_refl _)
    rw [← List.append_assoc, Expr.path_concat] at whole ⊢
    simp only [readAll_concat]
    rw [expression_get_unbound whole, bind_congr_at before, Eval.bind_assoc]

theorem expression_var_unbound (unbound : s.context.get? root.text = none) :
    setting.expression (.var root) s = Eval.attempt root.span
      (if setting.strict then .error (.undefinedVariable root.text) else .ok .null) s := by
  simp only [expression, Bind.bind, Eval.context, variableValue, unbound]

/-- Nothing behind a failing front is evaluated. -/
theorem expression_path_error {e : EvalError}
    (base : setting.expression (.path root front) s = (.error e, s))
    (apart : ∀ more, more ≠ [] → more <+: behind →
      s.context.dotted? (.path root (front ++ more)) = none) :
    setting.expression (.path root (front ++ behind)) s = (.error e, s) :=
  expression_path_append (m := fun s => (.error e, s)) base apart

/-- The first access to a member of an unbound variable, unless a dotted name is bound. -/
theorem expression_get_var_unbound (setting : Setting) (unbound : s.context.get? root.text = none)
    (alone : s.context.get? (Expr.pathName root [(span, member)]) = none) :
    setting.expression (.path root [(span, member)]) s =
      (if setting.strict then Eval.attempt root.span (.error (.undefinedVariable root.text))
        else Eval.attempt span (.error (.nullAccess member.text)) : Eval Value) s := by
  have dotted := (Context.dotted?_of_unbound unbound _).trans alone
  change setting.expression (.get span (.var root) member) s = _
  rw [expression_get_unbound dotted, bind_congr_at (expression_var_unbound unbound)]
  cases setting.strict <;> rfl

/-- Evaluating a path follows its rule. -/
theorem expression_path (rule : Eval Value) (h : setting.PathRule s.context root members rule) :
    setting.expression (.path root members) s = rule s := by
  cases h with
  | @«variable» v bound =>
    have base : setting.expression (.path root []) s = (pure v : Eval Value) s := by
      change setting.expression (.var root) s = _
      simp only [expression, Bind.bind, Eval.context, variableValue, bound]
      rfl
    exact expression_path_append base fun more _ _ => Context.dotted?_of_bound bound _
  | @front front behind v unbound split filled bound longest =>
    have base : setting.expression (.path root front) s = (pure v : Eval Value) s := by
      obtain ⟨before, ⟨span, member⟩, rfl⟩ := (List.eq_nil_or_concat' front).resolve_left filled
      have dotted := (Context.dotted?_of_unbound unbound _).trans bound
      rw [Expr.path_concat] at dotted ⊢
      exact expression_get_bound dotted
    rw [split]
    refine expression_path_append base fun more filled part => ?_
    rw [Context.dotted?_of_unbound unbound]
    exact longest more filled part
  | @nothing span first rest unbound split nowhere =>
    subst split
    have base := setting.expression_get_var_unbound unbound
      (nowhere [(span, first)] (by simp) (by simp))
    have error : ∃ e, (if setting.strict
        then Eval.attempt root.span (.error (.undefinedVariable root.text))
        else Eval.attempt span (.error (.nullAccess first.text)) : Eval Value) s = (.error e, s) := by
      cases setting.strict <;> exact ⟨_, rfl⟩
    obtain ⟨e, error⟩ := error
    rw [error] at base ⊢
    refine expression_path_error base fun more filled part => ?_
    rw [Context.dotted?_of_unbound unbound]
    exact nowhere ([(span, first)] ++ more) (by simp) ((List.prefix_append_right_inj _).2 part)

theorem exists_pathRule (setting : Setting) (context : Context) (root : Name Span)
    (filled : members ≠ []) : ∃ rule, setting.PathRule context root members rule := by
  cases at_root : context.get? root.text with
  | some v => exact ⟨_, .variable at_root⟩
  | none =>
    rcases Context.bindsNone_or_longest context root members with
      nowhere | ⟨front, behind, v, split, front_filled, bound, longest⟩
    · obtain ⟨⟨span, first⟩, rest, split⟩ := List.exists_cons_of_ne_nil filled
      exact ⟨_, .nothing at_root split nowhere⟩
    · exact ⟨_, .front at_root split front_filled bound longest⟩

/-- What continues with a target depends on what the target gives alone. -/
theorem Continues.expression {target e : Expr Span} {rest : Value → Eval Value}
    (h : setting.Continues target e rest) :
    setting.expression e = setting.expression target >>= rest := by
  cases h <;> simp only [Setting.expression]

/-- A path takes the longest front that is bound as a whole, and so does what has a path as its
target. -/
theorem path_takes_longest_front (setting : Setting) (root : Name Span) (members : Members)
    (filled : members ≠ []) (s : State) :
    (∃ rule, setting.PathRule s.context root members rule) ∧
      ∀ rule, setting.PathRule s.context root members rule →
        setting.expression (.path root members) s = rule s ∧
        ∀ e rest, setting.Continues (.path root members) e rest →
          setting.expression e s = (rule >>= rest) s := by
  refine ⟨exists_pathRule setting s.context root filled, fun rule h => ?_⟩
  have alone := expression_path rule h
  refine ⟨alone, fun e rest continues => ?_⟩
  rw [continues.expression, bind_congr_at alone]

/-- A front that is bound to null counts: its next member is an access to null. -/
theorem path_takes_longest_front_null :
    let setting : Setting := (Engine.ofTypes {} [] 10).setting
    let span (stop : Nat) : Span := ⟨.start, ⟨stop, 1, stop + 1⟩⟩
    let s : State := ⟨.ofList [("a.b", .null)], ⟨.empty, .empty⟩⟩
    let members : Members := [(span 3, ⟨"b", span 3⟩), (span 5, ⟨"c", span 5⟩)]
    members ≠ [] ∧
      setting.expression (.path ⟨"a", span 1⟩ members) s =
        (.error ⟨span 5, .nullAccess "c"⟩, s) := by
  intro setting span s members
  have filled : members ≠ [] := List.cons_ne_nil _ _
  have longest : s.context.BindsNone ⟨"a", span 1⟩ (members.take 1) (members.drop 1) := by
    intro more more_filled part
    rcases List.prefix_concat_iff.1 (show more <+: [] ++ [(span 5, ⟨"c", span 5⟩)] from part) with
      rfl | part
    · rfl
    · exact absurd (List.prefix_nil.1 part) more_filled
  have rule : setting.PathRule s.context ⟨"a", span 1⟩ members (setting.readAll .null _) :=
    .front rfl (List.take_append_drop 1 members).symm (List.cons_ne_nil _ _) rfl longest
  exact ⟨filled, ((path_takes_longest_front setting ⟨"a", span 1⟩ members filled s).2 _ rule).1⟩

end Setting

end

end ExprScript
