import ExprScript.Tree.Basic

/-!
# Trees up to annotations

The shape of a tree is the tree without its annotations. Two trees are the same up to spans when
they have one shape.
-/

namespace ExprScript

variable {σ τ υ : Type}

/-! ### Annotations changed twice -/

theorem Name.map_map (f : σ → τ) (g : τ → υ) (name : Name σ) :
    (name.map f).map g = name.map (g ∘ f) := rfl

mutual

theorem Expr.map_map (f : σ → τ) (g : τ → υ) (e : Expr σ) : (e.map f).map g = e.map (g ∘ f) := by
  cases e with
  | literal | var => rfl
  | binary _ _ lhs rhs | logical _ _ lhs rhs | elvis _ lhs rhs =>
    simp only [map, map_map f g lhs, map_map f g rhs, Function.comp_apply]
  | unary _ _ operand | builtin _ _ operand =>
    simp only [map, map_map f g operand, Function.comp_apply]
  | ternary _ condition yes no =>
    simp only [map, map_map f g condition, map_map f g yes, map_map f g no, Function.comp_apply]
  | assign _ _ value => simp only [map, map_map f g value, Name.map_map, Function.comp_apply]
  | get _ target _ => simp only [map, map_map f g target, Name.map_map, Function.comp_apply]
  | index _ target key => simp only [map, map_map f g target, map_map f g key, Function.comp_apply]
  | assignMember _ target _ value =>
    simp only [map, map_map f g target, map_map f g value, Name.map_map, Function.comp_apply]
  | assignIndex _ target key value =>
    simp only [map, map_map f g target, map_map f g key, map_map f g value, Function.comp_apply]
  | call _ target _ arguments =>
    simp only [map, map_map f g target, Expr.mapAll_mapAll f g arguments, Name.map_map,
      Function.comp_apply]

theorem Expr.mapAll_mapAll (f : σ → τ) (g : τ → υ) (es : List (Expr σ)) :
    mapAll g (mapAll f es) = mapAll (g ∘ f) es := by
  cases es with
  | nil => rfl
  | cons e rest => simp only [mapAll, Expr.map_map f g e, mapAll_mapAll f g rest]

end

mutual

theorem Stmt.map_map (f : σ → τ) (g : τ → υ) (s : Stmt σ) : (s.map f).map g = s.map (g ∘ f) := by
  cases s with
  | expr _ body => simp only [map, Expr.map_map, Function.comp_apply]
  | block _ body => simp only [map, Stmt.mapAll_mapAll f g body, Function.comp_apply]
  | ifThen _ condition yes => simp only [map, Expr.map_map, map_map f g yes, Function.comp_apply]
  | ifElse _ condition yes no =>
    simp only [map, Expr.map_map, map_map f g yes, map_map f g no, Function.comp_apply]
  | loop _ condition body => simp only [map, Expr.map_map, map_map f g body, Function.comp_apply]
  | empty => rfl

theorem Stmt.mapAll_mapAll (f : σ → τ) (g : τ → υ) (body : List (Stmt σ)) :
    mapAll g (mapAll f body) = mapAll (g ∘ f) body := by
  cases body with
  | nil => rfl
  | cons s rest => simp only [mapAll, Stmt.map_map f g s, mapAll_mapAll f g rest]

end

theorem Tree.map_map (f : σ → τ) (g : τ → υ) (t : Tree σ) : (t.map f).map g = t.map (g ∘ f) := by
  cases t with
  | expression body => simp only [map, Expr.map_map]
  | script body => simp only [map, Stmt.mapAll_mapAll]

/-! ### Shapes -/

/-- The name without its annotation. -/
def Name.shape (name : Name σ) : Name Unit := name.map fun _ => ()

/-- The expression without annotations. -/
def Expr.shape (e : Expr σ) : Expr Unit := e.map fun _ => ()

/-- The statement without annotations. -/
def Stmt.shape (s : Stmt σ) : Stmt Unit := s.map fun _ => ()

/-- The unit without annotations. -/
def Tree.shape (t : Tree σ) : Tree Unit := t.map fun _ => ()

@[simp] theorem Name.shape_mk (text : String) (span : σ) :
    (⟨text, span⟩ : Name σ).shape = ⟨text, ()⟩ := rfl

namespace Expr

theorem mapAll_eq_map (f : σ → τ) (es : List (Expr σ)) : mapAll f es = es.map (map f) := by
  induction es with
  | nil => rfl
  | cons e rest ih => simp only [mapAll, List.map_cons, ih]

section

variable (span : σ) (target key lhs rhs value condition yes no operand : Expr σ)
  (name member method : Name σ) (arguments : List (Expr σ))

@[simp] theorem shape_literal (v : Literal) : (literal span v).shape = .literal () v := rfl

@[simp] theorem shape_var : (var name).shape = .var name.shape := rfl

@[simp] theorem shape_binary (op : BinaryOp) :
    (binary span op lhs rhs).shape = .binary () op lhs.shape rhs.shape := rfl

@[simp] theorem shape_unary (op : UnaryOp) :
    (unary span op operand).shape = .unary () op operand.shape := rfl

@[simp] theorem shape_logical (op : LogicalOp) :
    (logical span op lhs rhs).shape = .logical () op lhs.shape rhs.shape := rfl

@[simp] theorem shape_ternary :
    (ternary span condition yes no).shape = .ternary () condition.shape yes.shape no.shape := rfl

@[simp] theorem shape_elvis : (elvis span lhs rhs).shape = .elvis () lhs.shape rhs.shape := rfl

@[simp] theorem shape_assign :
    (assign span name value).shape = .assign () name.shape value.shape := rfl

@[simp] theorem shape_get :
    (get span target member).shape = .get () target.shape member.shape := rfl

@[simp] theorem shape_index :
    (index span target key).shape = .index () target.shape key.shape := rfl

@[simp] theorem shape_assignMember :
    (assignMember span target member value).shape =
      .assignMember () target.shape member.shape value.shape := rfl

@[simp] theorem shape_assignIndex :
    (assignIndex span target key value).shape =
      .assignIndex () target.shape key.shape value.shape := rfl

@[simp] theorem shape_call :
    (call span target method arguments).shape =
      .call () target.shape method.shape (arguments.map shape) :=
  congrArg (call () target.shape method.shape) (mapAll_eq_map _ arguments)

@[simp] theorem shape_builtin (function : Builtin) :
    (builtin span function value).shape = .builtin () function value.shape := rfl

end

/-- The expression with another annotation at its root; that of a variable is its name's. -/
def mapRoot (f : σ → σ) : Expr σ → Expr σ
  | literal span value => literal (f span) value
  | var name => var ⟨name.text, f name.span⟩
  | binary span op lhs rhs => binary (f span) op lhs rhs
  | unary span op operand => unary (f span) op operand
  | logical span op lhs rhs => logical (f span) op lhs rhs
  | ternary span condition yes no => ternary (f span) condition yes no
  | elvis span lhs rhs => elvis (f span) lhs rhs
  | assign span name value => assign (f span) name value
  | get span target member => get (f span) target member
  | index span target key => index (f span) target key
  | assignMember span target member value => assignMember (f span) target member value
  | assignIndex span target key value => assignIndex (f span) target key value
  | call span target method arguments => call (f span) target method arguments
  | builtin span function argument => builtin (f span) function argument

@[simp] theorem shape_mapRoot (f : σ → σ) (e : Expr σ) : (e.mapRoot f).shape = e.shape := by
  cases e <;> rfl

end Expr

namespace Stmt

theorem mapAll_eq_map (f : σ → τ) (body : List (Stmt σ)) : mapAll f body = body.map (map f) := by
  induction body with
  | nil => rfl
  | cons s rest ih => simp only [mapAll, List.map_cons, ih]

section

variable (span : σ) (e condition : Expr σ) (yes no s : Stmt σ) (body : List (Stmt σ))

@[simp] theorem shape_expr : (expr span e).shape = .expr () e.shape := rfl

@[simp] theorem shape_block : (block span body).shape = .block () (body.map shape) :=
  congrArg (block ()) (mapAll_eq_map _ body)

@[simp] theorem shape_ifThen :
    (ifThen span condition yes).shape = .ifThen () condition.shape yes.shape := rfl

@[simp] theorem shape_ifElse :
    (ifElse span condition yes no).shape = .ifElse () condition.shape yes.shape no.shape := rfl

@[simp] theorem shape_loop :
    (loop span condition s).shape = .loop () condition.shape s.shape := rfl

@[simp] theorem shape_empty : (empty span).shape = .empty () := rfl

end

end Stmt

namespace Tree

@[simp] theorem shape_expression (e : Expr σ) : (expression e).shape = .expression e.shape := rfl

@[simp] theorem shape_script (body : List (Stmt σ)) :
    (script body).shape = .script (body.map Stmt.shape) :=
  congrArg script (Stmt.mapAll_eq_map _ body)

end Tree

end ExprScript
