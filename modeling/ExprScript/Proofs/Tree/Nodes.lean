import ExprScript.Tree.Basic

/-!
# The nodes of a tree

A node has children, which are listed in the order of the source. All nodes of a tree are those that
are reached from child to child.
-/

namespace ExprScript

variable {σ : Type}

namespace Expr

/-- The expressions that an expression is built from. -/
def children : Expr σ → List (Expr σ)
  | literal .. | var _ => []
  | unary _ _ part | assign _ _ part | get _ part _ | builtin _ _ part => [part]
  | binary _ _ lhs rhs | logical _ _ lhs rhs | elvis _ lhs rhs => [lhs, rhs]
  | ternary _ condition yes no => [condition, yes, no]
  | index _ target key => [target, key]
  | assignMember _ target _ value => [target, value]
  | assignIndex _ target key value => [target, key, value]
  | call _ target _ arguments => target :: arguments

mutual

/-- An expression and all expressions in it. -/
def nodes : Expr σ → List (Expr σ)
  | literal span value => [literal span value]
  | var name => [var name]
  | binary span op lhs rhs => binary span op lhs rhs :: (lhs.nodes ++ rhs.nodes)
  | unary span op operand => unary span op operand :: operand.nodes
  | logical span op lhs rhs => logical span op lhs rhs :: (lhs.nodes ++ rhs.nodes)
  | ternary span condition yes no =>
    ternary span condition yes no :: (condition.nodes ++ (yes.nodes ++ no.nodes))
  | elvis span lhs rhs => elvis span lhs rhs :: (lhs.nodes ++ rhs.nodes)
  | assign span name value => assign span name value :: value.nodes
  | get span target member => get span target member :: target.nodes
  | index span target key => index span target key :: (target.nodes ++ key.nodes)
  | assignMember span target member value =>
    assignMember span target member value :: (target.nodes ++ value.nodes)
  | assignIndex span target key value =>
    assignIndex span target key value :: (target.nodes ++ (key.nodes ++ value.nodes))
  | call span target method arguments =>
    call span target method arguments :: (target.nodes ++ nodesOfAll arguments)
  | builtin span function argument => builtin span function argument :: argument.nodes

/-- The expressions of a list and all expressions in them. -/
def nodesOfAll : List (Expr σ) → List (Expr σ)
  | [] => []
  | e :: rest => e.nodes ++ nodesOfAll rest

end

variable {e child n : Expr σ} {es : List (Expr σ)}

theorem nodes_eq (e : Expr σ) : e.nodes = e :: nodesOfAll e.children := by
  cases e <;> simp [nodes, nodesOfAll, children]

theorem mem_nodesOfAll : n ∈ nodesOfAll es ↔ ∃ e ∈ es, n ∈ e.nodes := by
  induction es with
  | nil => simp [nodesOfAll]
  | cons e rest ih => simp [nodesOfAll, ih]

theorem mem_nodes_self (e : Expr σ) : e ∈ e.nodes := by
  rw [nodes_eq]
  exact List.mem_cons_self

theorem nodes_subset_of_mem_children (h : child ∈ e.children) : child.nodes ⊆ e.nodes := by
  intro n listed
  rw [nodes_eq]
  exact List.mem_cons_of_mem _ (mem_nodesOfAll.2 ⟨child, h, listed⟩)

theorem nodesOfAll_subset (h : ∀ child ∈ es, child.nodes ⊆ e.nodes) : nodesOfAll es ⊆ e.nodes := by
  intro n listed
  obtain ⟨child, listed, within⟩ := mem_nodesOfAll.1 listed
  exact h child listed within

end Expr

namespace Stmt

mutual

/-- All expressions in a statement. -/
def exprs : Stmt σ → List (Expr σ)
  | expr _ body => body.nodes
  | block _ body => exprsOfAll body
  | ifThen _ condition yes => condition.nodes ++ yes.exprs
  | ifElse _ condition yes no => condition.nodes ++ (yes.exprs ++ no.exprs)
  | loop _ condition body => condition.nodes ++ body.exprs
  | empty _ => []

/-- All expressions in the statements of a list. -/
def exprsOfAll : List (Stmt σ) → List (Expr σ)
  | [] => []
  | t :: rest => t.exprs ++ exprsOfAll rest

end

mutual

/-- A statement and all statements in it. -/
def nodes : Stmt σ → List (Stmt σ)
  | expr span body => [expr span body]
  | block span body => block span body :: nodesOfAll body
  | ifThen span condition yes => ifThen span condition yes :: yes.nodes
  | ifElse span condition yes no => ifElse span condition yes no :: (yes.nodes ++ no.nodes)
  | loop span condition body => loop span condition body :: body.nodes
  | empty span => [empty span]

/-- The statements of a list and all statements in them. -/
def nodesOfAll : List (Stmt σ) → List (Stmt σ)
  | [] => []
  | t :: rest => t.nodes ++ nodesOfAll rest

end

/-- The expressions that a statement is built from. -/
def operands : Stmt σ → List (Expr σ)
  | expr _ body => [body]
  | ifThen _ condition _ | ifElse _ condition _ _ | loop _ condition _ => [condition]
  | block .. | empty _ => []

/-- The statements that a statement is built from. -/
def children : Stmt σ → List (Stmt σ)
  | expr .. | empty _ => []
  | block _ body => body
  | ifThen _ _ yes => [yes]
  | ifElse _ _ yes no => [yes, no]
  | loop _ _ body => [body]

variable {t n : Stmt σ} {e : Expr σ} {body : List (Stmt σ)}

theorem exprs_eq (t : Stmt σ) : t.exprs = Expr.nodesOfAll t.operands ++ exprsOfAll t.children := by
  cases t <;> simp [exprs, exprsOfAll, operands, children, Expr.nodesOfAll]

theorem nodes_eq (t : Stmt σ) : t.nodes = t :: nodesOfAll t.children := by
  cases t <;> simp [nodes, nodesOfAll, children]

theorem mem_exprsOfAll : e ∈ exprsOfAll body ↔ ∃ t ∈ body, e ∈ t.exprs := by
  induction body with
  | nil => simp [exprsOfAll]
  | cons t rest ih => simp [exprsOfAll, ih]

theorem mem_nodesOfAll : n ∈ nodesOfAll body ↔ ∃ t ∈ body, n ∈ t.nodes := by
  induction body with
  | nil => simp [nodesOfAll]
  | cons t rest ih => simp [nodesOfAll, ih]

end Stmt

namespace Tree

/-- All expressions in a unit. -/
def exprs : Tree σ → List (Expr σ)
  | expression body => body.nodes
  | script body => Stmt.exprsOfAll body

/-- All statements in a unit. -/
def stmts : Tree σ → List (Stmt σ)
  | expression _ => []
  | script body => Stmt.nodesOfAll body

end Tree

end ExprScript
