import ExprScript.Proofs.Source.Places
import ExprScript.Proofs.Tree.Nodes

/-!
# Trees at their places in a source

A node is at its place when its span is a slice of the source in which those of its parts follow
each other, and when its names are spelled as they stand there.
-/

namespace ExprScript

variable {source : List Char}

/-- A name is spelled as it stands in the source. -/
structure Name.Placed (source : List Char) (name : Name Span) : Prop where
  span : name.span.In source
  text : name.span.extract? source = some name.text.toList

namespace Expr

/-- The names that an expression itself has. -/
def names {σ : Type} : Expr σ → List (Name σ)
  | var name | assign _ name _ | get _ _ name | assignMember _ _ name _ | call _ _ name _ => [name]
  | _ => []

/-- The spans of the operands and names of an expression, in the order of the source. -/
def parts : Expr Span → List Span
  | literal .. => []
  | var name => [name.span]
  | unary _ _ part | builtin _ _ part => [part.span]
  | binary _ _ lhs rhs | logical _ _ lhs rhs | elvis _ lhs rhs => [lhs.span, rhs.span]
  | ternary _ condition yes no => [condition.span, yes.span, no.span]
  | assign _ name value => [name.span, value.span]
  | get _ target member => [target.span, member.span]
  | index _ target key => [target.span, key.span]
  | assignMember _ target member value => [target.span, member.span, value.span]
  | assignIndex _ target key value => [target.span, key.span, value.span]
  | call _ target method arguments => target.span :: method.span :: arguments.map span

/-- An expression is at its place: its span is a slice with some text, which has its parts in order
and apart from each other. -/
structure Placed (source : List Char) (e : Expr Span) : Prop where
  span : e.span.In source
  filled : e.span.start.byte < e.span.stop.byte
  names : ∀ name ∈ e.names, name.Placed source
  parts : Span.Row e.span.start.byte e.span.stop.byte e.parts

/-- All expressions in an expression are at their places. -/
def Situated (source : List Char) (e : Expr Span) : Prop := ∀ n ∈ e.nodes, n.Placed source

variable {e child : Expr Span}

theorem Situated.placed (h : e.Situated source) : e.Placed source := h e (mem_nodes_self e)

theorem Situated.of_mem_children (h : e.Situated source) (among : child ∈ e.children) :
    child.Situated source :=
  fun n listed => h n (nodes_subset_of_mem_children among listed)

theorem Situated.of_children (placed : e.Placed source)
    (children : ∀ child ∈ e.children, child.Situated source) : e.Situated source := by
  intro n listed
  rw [nodes_eq] at listed
  rcases List.mem_cons.1 listed with rfl | listed
  · exact placed
  · obtain ⟨child, among, within⟩ := mem_nodesOfAll.1 listed
    exact children child among n within

end Expr

namespace Stmt

/-- The spans of the parts of a statement, in the order of the source. -/
def parts : Stmt Span → List Span
  | expr _ body => [body.span]
  | block _ body => body.map span
  | ifThen _ condition yes => [condition.span, yes.span]
  | ifElse _ condition yes no => [condition.span, yes.span, no.span]
  | loop _ condition body => [condition.span, body.span]
  | empty _ => []

/-- A statement is at its place: its span is a slice with some text, which has its parts in order
and apart from each other. -/
structure Placed (source : List Char) (t : Stmt Span) : Prop where
  span : t.span.In source
  filled : t.span.start.byte < t.span.stop.byte
  parts : Span.Row t.span.start.byte t.span.stop.byte t.parts

/-- All statements in a statement and all expressions in it are at their places. -/
structure Situated (source : List Char) (t : Stmt Span) : Prop where
  nodes : ∀ n ∈ t.nodes, n.Placed source
  exprs : ∀ e ∈ t.exprs, e.Placed source

variable {t child : Stmt Span}

theorem Situated.placed (h : t.Situated source) : t.Placed source := by
  refine h.nodes t ?_
  rw [nodes_eq]
  exact List.mem_cons_self

theorem Situated.of_children (placed : t.Placed source)
    (operands : ∀ e ∈ t.operands, e.Situated source)
    (children : ∀ child ∈ t.children, child.Situated source) : t.Situated source := by
  constructor
  · intro n listed
    rw [nodes_eq] at listed
    rcases List.mem_cons.1 listed with rfl | listed
    · exact placed
    · obtain ⟨child, among, within⟩ := mem_nodesOfAll.1 listed
      exact (children child among).nodes n within
  · intro e listed
    rw [exprs_eq] at listed
    rcases List.mem_append.1 listed with listed | listed
    · obtain ⟨operand, among, within⟩ := Expr.mem_nodesOfAll.1 listed
      exact operands operand among e within
    · obtain ⟨child, among, within⟩ := mem_exprsOfAll.1 listed
      exact (children child among).exprs e within

end Stmt

/-- The spans of the statements of a unit, in the order of the source. -/
def Tree.parts : Tree Span → List Span
  | expression body => [body.span]
  | script body => body.map Stmt.span

/-- All expressions and statements of a unit are at their places, its parts one after the other. -/
structure Tree.Situated (source : List Char) (tree : Tree Span) : Prop where
  exprs : ∀ e ∈ tree.exprs, e.Placed source
  stmts : ∀ t ∈ tree.stmts, t.Placed source
  parts : Span.Row 0 (bytes source) tree.parts

end ExprScript
