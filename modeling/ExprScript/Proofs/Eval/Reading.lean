import ExprScript.Engine
import ExprScript.Proofs.Eval.Effects
import ExprScript.Proofs.Eval.Visits
import ExprScript.Proofs.Tree.Nodes

/-!
# What an evaluation reads of its variables

The variables of a unit and the dotted names of its chains of members are all that it looks up. Two
contexts that agree on them cannot be told apart: the effects are the same one by one, each is done
in the same world, and the outcome is the same.
-/

namespace ExprScript

variable {σ : Type}

/-! ### Names that are looked up -/

namespace Expr

/-- The variables and the dotted names in an expression. Names that are only assigned to are not
among them. -/
def reads (e : Expr σ) : List String := e.nodes.filterMap dottedPath?

/-- The variables and the dotted names in the expressions of a list. -/
def readsOfAll (es : List (Expr σ)) : List String := (nodesOfAll es).filterMap dottedPath?

theorem reads_subset_of_mem_children {e child : Expr σ} (h : child ∈ e.children) :
    child.reads ⊆ e.reads :=
  List.filterMap_subset _ (nodes_subset_of_mem_children h)

theorem readsOfAll_cons (e : Expr σ) (rest : List (Expr σ)) :
    readsOfAll (e :: rest) = e.reads ++ readsOfAll rest :=
  List.filterMap_append

theorem readsOfAll_children_subset (e : Expr σ) : readsOfAll e.children ⊆ e.reads := by
  rw [reads, nodes_eq]
  exact List.filterMap_subset _ (List.subset_cons_self _ _)

theorem dottedPath?_mem_reads {e : Expr σ} {path : String} (h : e.dottedPath? = some path) :
    path ∈ e.reads :=
  List.mem_filterMap.2 ⟨e, mem_nodes_self e, h⟩

theorem pathRoot?_mem_reads {e : Expr σ} {root : String} (h : e.pathRoot? = some root) :
    root ∈ e.reads := by
  induction e using pathRoot?.induct with
  | case1 name => exact dottedPath?_mem_reads h
  | case2 span target member ih =>
    exact reads_subset_of_mem_children (List.mem_singleton_self target) (ih h)
  | case3 e notVar notGet => simp [pathRoot?] at h

end Expr

/-- The variables and the dotted names in a statement. -/
def Stmt.reads (t : Stmt σ) : List String := t.exprs.filterMap Expr.dottedPath?

/-- The variables and the dotted names in the statements of a list. -/
def Stmt.readsOfAll (body : List (Stmt σ)) : List String :=
  (exprsOfAll body).filterMap Expr.dottedPath?

/-- The variables and the dotted names in a unit. -/
def Tree.reads (t : Tree σ) : List String := t.exprs.filterMap Expr.dottedPath?

/-- Two states with the same world whose contexts agree on some names: each of them is bound in
both, to one value, or in neither. -/
structure State.Agree (names : List String) (s₁ s₂ : State) : Prop where
  world : s₁.world = s₂.world
  context : ∀ name ∈ names, s₁.context.get? name = s₂.context.get? name

variable {setting : Setting} {names : List String} {s₁ s₂ : State} {α β : Type}

/-- Whatever effect is had, contexts still agree after it. -/
theorem State.Agree.perform (h : s₁.Agree names s₂) (effect : Effect) :
    (setting.perform s₁ effect).Agree names (setting.perform s₂ effect) := by
  cases effect with
  | bind name v =>
    refine ⟨h.world, fun other listed => ?_⟩
    simp only [Setting.perform, Table.get?_insert, h.context other listed]
  | use target member use =>
    simp only [Setting.perform, h.world]
    exact ⟨rfl, h.context⟩
  | apply function argument =>
    simp only [Setting.perform, h.world]
    exact ⟨rfl, h.context⟩

theorem State.Agree.replay (h : s₁.Agree names s₂) (effects : List Effect) :
    (setting.replay s₁ effects).Agree names (setting.replay s₂ effects) := by
  induction effects generalizing s₁ s₂ with
  | nil => exact h
  | cons effect rest ih => exact ih (h.perform effect)

/-- The dotted name of a chain is looked up alike. -/
theorem Context.dotted?_congr {c₁ c₂ : Context} {e : Expr Span}
    (agree : ∀ name ∈ e.reads, c₁.get? name = c₂.get? name) : c₁.dotted? e = c₂.dotted? e := by
  unfold dotted?
  split
  · rename_i root path hasRoot hasPath
    have bound : c₁.contains root = c₂.contains root :=
      congrArg Option.isSome (agree root (Expr.pathRoot?_mem_reads hasRoot))
    rw [bound, agree path (Expr.dottedPath?_mem_reads hasPath)]
  · rfl

namespace Eval

/-- An evaluation leaves the state that its effects lead to. From the context it reads some names
alone: what it gives and its effects do not depend on others. -/
structure ReadsOnly (setting : Setting) (names : List String) (m : Eval α)
    (effects : State → List Effect) : Prop where
  leaves : ∀ s, (m s).2 = setting.replay s (effects s)
  same : ∀ s₁ s₂, s₁.Agree names s₂ → (m s₁).1 = (m s₂).1 ∧ effects s₁ = effects s₂

namespace ReadsOnly

variable {m : Eval α} {f : α → Eval β} {effects : State → List Effect}
  {next : α → State → List Effect}

theorem bind (first : ReadsOnly setting names m effects)
    (then' : ∀ a, ReadsOnly setting names (f a) (next a)) :
    ReadsOnly setting names (m >>= f) (effectsThen m effects next) := by
  constructor
  · intro s
    have leaves := first.leaves s
    simp only [Bind.bind, effectsThen]
    generalize m s = r at leaves ⊢
    rcases r with ⟨a | e | _, s'⟩
    · rw [setting.replay_append, ← leaves]
      exact (then' a).leaves s'
    · exact leaves.trans (congrArg _ (List.append_nil _).symm)
    · exact leaves.trans (congrArg _ (List.append_nil _).symm)
  · intro s₁ s₂ agree
    obtain ⟨outcome, effects_eq⟩ := first.same s₁ s₂ agree
    have agree' : (m s₁).2.Agree names (m s₂).2 := by
      rw [first.leaves, first.leaves, effects_eq]
      exact agree.replay (effects s₂)
    simp only [Bind.bind, effectsThen, effects_eq]
    generalize m s₁ = r₁ at outcome agree' ⊢
    generalize m s₂ = r₂ at outcome agree' ⊢
    obtain ⟨o, t₁⟩ := r₁
    obtain ⟨_, t₂⟩ := r₂
    cases outcome
    rcases o with a | e | _
    · obtain ⟨same, next_eq⟩ := (then' a).same t₁ t₂ agree'
      exact ⟨same, congrArg (effects s₂ ++ ·) next_eq⟩
    · exact ⟨rfl, rfl⟩
    · exact ⟨rfl, rfl⟩

theorem pure (a : α) : ReadsOnly setting names (Pure.pure a : Eval α) fun _ => [] :=
  ⟨fun _ => rfl, fun _ _ _ => ⟨rfl, rfl⟩⟩

theorem exhaust : ReadsOnly setting names (exhaust : Eval α) fun _ => [] :=
  ⟨fun _ => rfl, fun _ _ _ => ⟨rfl, rfl⟩⟩

theorem attempt (span : Span) (result : Except EvalCause α) :
    ReadsOnly setting names (attempt span result) fun _ => [] :=
  ⟨fun _ => rfl, fun _ _ _ => ⟨rfl, rfl⟩⟩

theorem bindVariable (name : String) (v : Value) :
    ReadsOnly setting names (bindVariable name v) fun _ => [.bind name v] :=
  ⟨fun _ => rfl, fun _ _ _ => ⟨rfl, rfl⟩⟩

theorem useMember (span : Span) (target : Value) (member : String) (use : Use) :
    ReadsOnly setting names
      (attemptOn span (setting.resolve.useMember target member use.access use.arguments))
      fun _ => [.use target member use] :=
  ⟨fun _ => rfl, fun _ _ agree => ⟨by simp only [attemptOn, agree.world], rfl⟩⟩

theorem applyBuiltin (span : Span) (function : Builtin) (argument : Value) :
    ReadsOnly setting names (attemptOn span (setting.resolve.applyBuiltin function argument))
      fun _ => [.apply function argument] :=
  ⟨fun _ => rfl, fun _ _ agree => ⟨by simp only [attemptOn, agree.world], rfl⟩⟩

/-- What has no effects adds none. -/
theorem quietly (first : ReadsOnly setting names m effects)
    (quiet : ∀ a, ReadsOnly setting names (f a) fun _ => []) :
    ReadsOnly setting names (m >>= f) effects := by
  have silent : effectsThen m effects (fun _ _ => []) = effects := by
    funext s
    unfold effectsThen
    split <;> exact List.append_nil _
  exact silent ▸ first.bind quiet

theorem repeatWhile {condition body : Eval Value}
    {conditionEffects bodyEffects : State → List Effect}
    (tests : ReadsOnly setting names condition conditionEffects)
    (executes : ReadsOnly setting names body bodyEffects) (rounds : Nat) (last : Value) :
    ReadsOnly setting names (repeatWhile condition body rounds last)
      (repeatEffects condition body conditionEffects bodyEffects rounds) := by
  induction rounds generalizing last with
  | zero => exact exhaust
  | succ rounds ih =>
    refine tests.bind fun test => ?_
    split
    · exact executes.bind ih
    · exact pure last

end ReadsOnly

end Eval

namespace Setting

open Eval

theorem readsOnly_write (setting : Setting) (span : Span) (target : Value) (name : String)
    (v : Value) :
    ReadsOnly setting names (setting.write span target name v)
      fun _ => [.use target name (.set v)] :=
  (ReadsOnly.useMember span target name (.set v)).quietly fun _ => .pure v

-- By induction on the tree. The names that a part reads are among those that the whole reads.

mutual

theorem readsOnly_expression (setting : Setting) (e : Expr Span) (reads : e.reads ⊆ names) :
    ReadsOnly setting names (setting.expression e) (setting.expressionEffects e) := by
  have part {child : Expr Span} (h : child ∈ e.children) : child.reads ⊆ names :=
    List.Subset.trans (Expr.reads_subset_of_mem_children h) reads
  cases e with
  | literal span value => exact .pure _
  | var name =>
    have read : name.text ∈ names := reads (Expr.dottedPath?_mem_reads rfl)
    refine ⟨fun _ => rfl, fun s₁ s₂ agree => ⟨?_, rfl⟩⟩
    change blame _ (setting.variableValue s₁.context _) =
      blame _ (setting.variableValue s₂.context _)
    rw [variableValue, variableValue, agree.context _ read]
  | binary span op lhs rhs =>
    exact (readsOnly_expression setting lhs (part (by simp [Expr.children]))).bind fun left =>
      (readsOnly_expression setting rhs (part (by simp [Expr.children]))).quietly fun right =>
        .attempt _ _
  | unary span op operand =>
    exact (readsOnly_expression setting operand (part (by simp [Expr.children]))).quietly
      fun value => .attempt _ _
  | logical span op lhs rhs =>
    refine (readsOnly_expression setting lhs (part (by simp [Expr.children]))).bind fun left => ?_
    have other := (readsOnly_expression setting rhs (part (by simp [Expr.children]))).quietly
      fun right => .pure (Value.boolean right.isTruthy)
    cases op <;> cases left.isTruthy
    · exact .pure _
    · exact other
    · exact other
    · exact .pure _
  | ternary span condition yes no =>
    refine (readsOnly_expression setting condition (part (by simp [Expr.children]))).bind
      fun test => ?_
    split
    · exact readsOnly_expression setting yes (part (by simp [Expr.children]))
    · exact readsOnly_expression setting no (part (by simp [Expr.children]))
  | elvis span lhs rhs =>
    refine (readsOnly_expression setting lhs (part (by simp [Expr.children]))).bind fun value => ?_
    split
    · exact .pure _
    · exact readsOnly_expression setting rhs (part (by simp [Expr.children]))
  | assign span name value =>
    exact (readsOnly_expression setting value (part (by simp [Expr.children]))).bind fun v =>
      (ReadsOnly.bindVariable name.text v).quietly fun _ => .pure v
  | get span target member =>
    have reading := (readsOnly_expression setting target (part (by simp [Expr.children]))).bind
      fun object => ReadsOnly.useMember span object member.text .get
    constructor
    · intro s
      unfold expressionEffects
      cases found : s.context.dotted? (.get span target member) with
      | some v => rw [expression_get_bound found]; rfl
      | none => rw [expression_get_unbound found]; exact reading.leaves s
    · intro s₁ s₂ agree
      have lookup := Context.dotted?_congr fun name read => agree.context name (reads read)
      unfold expressionEffects
      cases found : s₂.context.dotted? (.get span target member) with
      | some v =>
        rw [expression_get_bound found, expression_get_bound (lookup.trans found), lookup, found]
        exact ⟨rfl, rfl⟩
      | none =>
        rw [expression_get_unbound found, expression_get_unbound (lookup.trans found), lookup,
          found]
        exact reading.same s₁ s₂ agree
  | index span target key =>
    exact (readsOnly_expression setting target (part (by simp [Expr.children]))).bind fun object =>
      (readsOnly_expression setting key (part (by simp [Expr.children]))).bind fun name =>
        .useMember span object name.render .get
  | assignMember span target member value =>
    exact (readsOnly_expression setting target (part (by simp [Expr.children]))).bind fun object =>
      (readsOnly_expression setting value (part (by simp [Expr.children]))).bind fun v =>
        setting.readsOnly_write span object member.text v
  | assignIndex span target key value =>
    exact (readsOnly_expression setting target (part (by simp [Expr.children]))).bind fun object =>
      (readsOnly_expression setting key (part (by simp [Expr.children]))).bind fun name =>
        (readsOnly_expression setting value (part (by simp [Expr.children]))).bind fun v =>
          setting.readsOnly_write span object name.render v
  | call span target method arguments =>
    have all := List.Subset.trans (Expr.readsOfAll_children_subset _) reads
    have passed : Expr.readsOfAll arguments ⊆ names := by
      rw [Expr.children, Expr.readsOfAll_cons, List.append_subset] at all
      exact all.2
    exact (readsOnly_expression setting target (part (by simp [Expr.children]))).bind fun object =>
      (readsOnly_expressions setting arguments passed).bind fun values =>
        .useMember method.span object method.text (.call values)
  | builtin span function argument =>
    exact (readsOnly_expression setting argument (part (by simp [Expr.children]))).bind fun v =>
      .applyBuiltin span function v

theorem readsOnly_expressions (setting : Setting) (es : List (Expr Span))
    (reads : Expr.readsOfAll es ⊆ names) :
    ReadsOnly setting names (setting.expressions es) (setting.expressionsEffects es) := by
  cases es with
  | nil => exact .pure _
  | cons e rest =>
    rw [Expr.readsOfAll_cons, List.append_subset] at reads
    exact (readsOnly_expression setting e reads.1).bind fun value =>
      (readsOnly_expressions setting rest reads.2).quietly fun values => .pure (value :: values)

end

mutual

theorem readsOnly_statement (setting : Setting) (t : Stmt Span) (reads : t.reads ⊆ names) :
    ReadsOnly setting names (setting.statement t) (setting.statementEffects t) := by
  cases t with
  | expr span body => exact readsOnly_expression setting body reads
  | block span body => exact readsOnly_statements setting body .null reads
  | ifThen span condition yes =>
    rw [Stmt.reads, Stmt.exprs, List.filterMap_append, List.append_subset] at reads
    refine (readsOnly_expression setting condition reads.1).bind fun test => ?_
    split
    · exact readsOnly_statement setting yes reads.2
    · exact .pure _
  | ifElse span condition yes no =>
    simp only [Stmt.reads, Stmt.exprs, List.filterMap_append, List.append_subset] at reads
    obtain ⟨inCondition, inYes, inNo⟩ := reads
    refine (readsOnly_expression setting condition inCondition).bind fun test => ?_
    split
    · exact readsOnly_statement setting yes inYes
    · exact readsOnly_statement setting no inNo
  | loop span condition body =>
    rw [Stmt.reads, Stmt.exprs, List.filterMap_append, List.append_subset] at reads
    exact (readsOnly_expression setting condition reads.1).repeatWhile
      (readsOnly_statement setting body reads.2) setting.rounds .null
  | empty span => exact .pure _

theorem readsOnly_statements (setting : Setting) (body : List (Stmt Span)) (last : Value)
    (reads : Stmt.readsOfAll body ⊆ names) :
    ReadsOnly setting names (setting.statements body last) (setting.statementsEffects body) := by
  cases body with
  | nil => exact .pure _
  | cons t rest =>
    rw [Stmt.readsOfAll, Stmt.exprsOfAll, List.filterMap_append, List.append_subset] at reads
    rw [statements, statementsEffects]
    split
    · exact readsOnly_statements setting rest last reads.2
    · exact (readsOnly_statement setting t reads.1).bind fun value =>
        readsOnly_statements setting rest value reads.2

end

theorem readsOnly_tree (setting : Setting) (t : Tree Span) :
    ReadsOnly setting t.reads (setting.tree t) (setting.treeEffects t) := by
  cases t with
  | expression body => exact readsOnly_expression setting body (List.Subset.refl _)
  | script body => exact readsOnly_statements setting body .null (List.Subset.refl _)

end Setting

/-- The effects of an evaluation are all that it does: one after the other they lead to the state
that it leaves. -/
theorem Engine.replay_effects (engine : Engine) (unit : CompiledUnit) (s : State) :
    engine.setting.replay s (engine.setting.treeEffects unit.tree s) = (engine.evaluate unit s).2 :=
  ((engine.setting.readsOnly_tree unit.tree).leaves s).symm

/-- Two evaluations of a unit do the same: they have the same effects in the same order, done in the
same worlds, and end with the same value or the same error at the same place. -/
structure SameRuns (engine : Engine) (unit : CompiledUnit) (s₁ s₂ : State) : Prop where
  outcome : (engine.evaluate unit s₁).1 = (engine.evaluate unit s₂).1
  effects : engine.setting.treeEffects unit.tree s₁ = engine.setting.treeEffects unit.tree s₂
  /-- The effects are all that the first evaluation does. -/
  first : engine.setting.replay s₁ (engine.setting.treeEffects unit.tree s₁) =
    (engine.evaluate unit s₁).2
  /-- The effects are all that the second evaluation does. -/
  second : engine.setting.replay s₂ (engine.setting.treeEffects unit.tree s₂) =
    (engine.evaluate unit s₂).2
  /-- After the first effects, however many, the world is the same. -/
  worlds : ∀ before after, engine.setting.treeEffects unit.tree s₁ = before ++ after →
    (engine.setting.replay s₁ before).world = (engine.setting.replay s₂ before).world

/-- Contexts that agree on the variables and the dotted names of a unit are the same to it. Of names
that are only assigned to nothing is asked. -/
theorem Engine.evaluate_reads (engine : Engine) (unit : CompiledUnit) (w : World) (c₁ c₂ : Context)
    (agree : ∀ name ∈ unit.tree.reads, c₁.get? name = c₂.get? name) :
    SameRuns engine unit ⟨c₁, w⟩ ⟨c₂, w⟩ := by
  have agree : State.Agree unit.tree.reads ⟨c₁, w⟩ ⟨c₂, w⟩ := ⟨rfl, agree⟩
  obtain ⟨outcome, effects⟩ := (engine.setting.readsOnly_tree unit.tree).same _ _ agree
  exact ⟨outcome, effects, engine.replay_effects unit _, engine.replay_effects unit _,
    fun before after _ => (agree.replay before).world⟩

/-- `a.b` is looked up as a whole when `a` is unbound; whether `b` is bound makes no difference. -/
theorem Engine.evaluate_reads_dotted :
    let chain : Expr Span := .get .nowhere (.var ⟨"a", .nowhere⟩) ⟨"b", .nowhere⟩
    let unit : CompiledUnit := ⟨"a.b".toList, .expression chain⟩
    let c₁ : Context := Table.empty.insert "a.b" (.integer 7)
    let c₂ : Context := c₁.insert "b" (.integer 1)
    (∀ name ∈ unit.tree.reads, c₁.get? name = c₂.get? name) ∧
      SameRuns (ofTypes {} [] 1) unit ⟨c₁, .empty, .empty⟩ ⟨c₂, .empty, .empty⟩ := by
  intro chain unit c₁ c₂
  have names : unit.tree.reads = ["a.b", "a"] := rfl
  have agree : ∀ name ∈ unit.tree.reads, c₁.get? name = c₂.get? name := by
    intro name read
    rw [names] at read
    rcases List.mem_cons.1 read with rfl | read
    · rfl
    · obtain rfl := List.mem_singleton.1 read
      rfl
  exact ⟨agree, (ofTypes {} [] 1).evaluate_reads unit ⟨.empty, .empty⟩ c₁ c₂ agree⟩

end ExprScript
