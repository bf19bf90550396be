import ExprScript.Proofs.Parse.Passing

/-!
# Where parsed nodes are

What a parser reads stands between the token that was ahead of it and the last one taken, and so do
the parts of what it reads. A node covers them from its first token, or from the operand that it is
joined to, up to the last token taken.
-/

namespace ExprScript

variable {source : List Char} {tokens : List SpannedToken}

namespace Stream

open Parsed

variable {s m r : Stream}

/-! ### Expressions -/

variable {e lhs : Expr Span} {spans spans' : List Span}

/-- A node that starts with the token ahead, with its parts behind it. -/
theorem situated_headed (h : s.Laid source tokens) (passes : Passes source tokens s e.parts r)
    (span : e.span = s.current.span.extend r.last) (names : ∀ name ∈ e.names, name.Placed source)
    (children : ∀ child ∈ e.children, child.Situated source) :
    e.Situated source ∧ Passes source tokens s [e.span] r := by
  obtain ⟨place, filled, row, passed⟩ := passes.headed h span
  exact ⟨.of_children ⟨place, filled, names, row⟩ children, passed⟩

/-- What is joined to an operand before the token ahead. -/
structure Joins (source : List Char) (tokens : List SpannedToken) (s : Stream) (lhs e : Expr Span)
    (r : Stream) : Prop where
  situated : e.Situated source
  reached : Reached source tokens s r
  starts : e.span.start = lhs.span.start
  stops : e.span.stop = r.last.stop

/-- A node that starts with an operand before the token ahead, with its other parts behind. -/
theorem joins_of_parts (situated : lhs.Situated source)
    (before : lhs.span.stop.byte ≤ s.current.span.start.byte)
    (front : Span.Row lhs.span.start.byte lhs.span.stop.byte spans)
    (passes : Passes source tokens s spans' r) (span : e.span = lhs.span.extend r.last)
    (parts : e.parts = spans ++ spans') (names : ∀ name ∈ e.names, name.Placed source)
    (children : ∀ child ∈ e.children, child.Situated source) : Joins source tokens s lhs e r := by
  have filled := situated.placed.filled
  have ahead := passes.reached.ahead_lt
  obtain ⟨same, covered, filled⟩ :=
    passes.reached.cover situated.placed.span (by omega) (by omega)
  have row := passes.behind front (Nat.le_of_lt situated.placed.filled) before
  rw [same] at span
  refine ⟨.of_children ⟨by rwa [span], by rwa [span], names, ?_⟩ children, passes.reached, ?_, ?_⟩
  · rw [span, parts]
    exact row
  · rw [span]
  · rw [span]

/-- A node whose first part is the operand before the token ahead. -/
theorem joins_of_operand (situated : lhs.Situated source)
    (before : lhs.span.stop.byte ≤ s.current.span.start.byte)
    (passes : Passes source tokens s spans r) (span : e.span = lhs.span.extend r.last)
    (parts : e.parts = lhs.span :: spans) (names : ∀ name ∈ e.names, name.Placed source)
    (children : ∀ child ∈ e.children, child.Situated source) : Joins source tokens s lhs e r :=
  joins_of_parts situated before (.single (Nat.le_refl _) (Nat.le_refl _)) passes span parts names
    children

/-- From a stream expressions are read at their places. -/
def PlacesAt (source : List Char) (tokens : List SpannedToken) (s : Stream) : Prop :=
  s.Laid source tokens → ∀ context,
    (expression context s).Yields (SyntaxError.Placed source tokens) fun e r =>
      e.Situated source ∧ Passes source tokens s [e.span] r

/-- Expressions at their places that are passed one after the other. -/
structure Lists (source : List Char) (tokens : List SpannedToken) (s : Stream)
    (es : List (Expr Span)) (r : Stream) : Prop where
  situated : ∀ e ∈ es, e.Situated source
  passes : Passes source tokens s (es.map Expr.span) r

theorem Lists.cons {e : Expr Span} {es : List (Expr Span)} (situated : e.Situated source)
    (passes : Passes source tokens s [e.span] m) (rest : Lists source tokens m es r) :
    Lists source tokens s (e :: es) r :=
  ⟨List.forall_mem_cons.2 ⟨situated, rest.situated⟩, passes.append rest.passes⟩

theorem moreArguments_places (s : Stream) {opened : Span} (place : opened.In source)
    (filled : opened.start.byte < opened.stop.byte)
    (below : ∀ m : Stream, m.size < s.size → PlacesAt source tokens m) (h : s.Laid source tokens) :
    (moreArguments opened s).Yields (SyntaxError.Placed source tokens)
      (Lists source tokens s) := by
  rw [moreArguments]
  split
  · rename_i close
    exact ⟨List.forall_mem_nil _, .mark (h.reached_mark close)⟩
  · split
    · exact SyntaxError.placed_of_filled place filled rfl
    · split
      · rename_i comma
        have passed := h.reached_mark comma
        have fewer := size_next_lt_of_mark comma
        refine (below s.next fewer passed.laid .lowest).andThen fun e m shorter first => ?_
        obtain ⟨situated, passes⟩ := first
        have below' : ∀ j : Stream, j.size < m.size → PlacesAt source tokens j :=
          fun j less => below j (by omega)
        have more := moreArguments_places m place filled below' passes.reached.laid
        have one := (Passes.mark passed).append passes
        exact more.andThen fun others r _ rest => .cons situated one rest
      · exact h.fail rfl
termination_by s.size

theorem arguments_places {opened : Span} (place : opened.In source)
    (filled : opened.start.byte < opened.stop.byte)
    (upto : ∀ m : Stream, m.size ≤ s.size → PlacesAt source tokens m) (h : s.Laid source tokens) :
    (arguments opened s).Yields (SyntaxError.Placed source tokens) (Lists source tokens s) := by
  rw [arguments]
  split
  · rename_i close
    exact ⟨List.forall_mem_nil _, .mark (h.reached_mark close)⟩
  · refine (upto s (Nat.le_refl _) h .lowest).andThen fun e m shorter first => ?_
    obtain ⟨situated, passes⟩ := first
    have below : ∀ j : Stream, j.size < m.size → PlacesAt source tokens j :=
      fun j less => upto j (by omega)
    have more := moreArguments_places m place filled below passes.reached.laid
    refine more.andThen fun others r _ rest => ?_
    have all := Lists.cons situated passes rest
    unfold countedArguments
    split
    · rename_i extra found
      have placed := (all.situated extra (List.mem_of_getElem? found)).placed
      exact SyntaxError.placed_of_filled placed.span placed.filled rfl
    · exact all

theorem unary_places (op : UnaryOp) (inside : s.current.token ≠ .endOfInput)
    (below : ∀ m : Stream, m.size < s.size → PlacesAt source tokens m) (h : s.Laid source tokens) :
    (unary op s inside).Yields (SyntaxError.Placed source tokens) fun e r =>
      e.Situated source ∧ Passes source tokens s [e.span] r := by
  rw [unary]
  have passed := h.reached inside
  refine (below s.next (size_next_lt inside) passed.laid .unary).andThen fun e r _ read => ?_
  obtain ⟨situated, passes⟩ := read
  exact situated_headed h (.append (.mark passed) passes) rfl (List.forall_mem_nil _)
    (by simpa [Expr.children] using situated)

theorem builtinCall_places (function : Builtin) (inside : s.current.token ≠ .endOfInput)
    (below : ∀ m : Stream, m.size < s.size → PlacesAt source tokens m) (h : s.Laid source tokens) :
    (builtinCall function s inside).Yields (SyntaxError.Placed source tokens) fun e r =>
      e.Situated source ∧ Passes source tokens s [e.span] r := by
  rw [builtinCall]
  have passed := h.reached inside
  have shorter := size_next_lt inside
  refine (expect_places passed.laid .leftParen .functionName).andThen fun _ m fewer opens => ?_
  obtain ⟨filled, opens⟩ := opens
  have upto : ∀ j : Stream, j.size ≤ m.size → PlacesAt source tokens j :=
    fun j most => below j (by omega)
  have place := passed.laid.current.span
  refine (arguments_places place filled upto opens.reached.laid).andThen fun found r _ lists => ?_
  have passes := ((Passes.mark passed).append opens).append lists.passes
  split
  · rename_i argument
    exact situated_headed h passes rfl (List.forall_mem_nil _)
      (by simpa [Expr.children] using lists.situated)
  · obtain ⟨same, covered, filled⟩ :=
      passes.reached.cover h.current.span (Nat.le_refl _) passes.reached.stops
    rw [same]
    exact SyntaxError.placed_of_filled covered filled rfl

/-- What can be assigned to is a variable, a member or an index; the node keeps its parts. -/
theorem assignTo?_places {value : Expr Span} (situated : lhs.Situated source)
    (before : lhs.span.stop.byte ≤ s.current.span.start.byte) (right : value.Situated source)
    (passes : Passes source tokens s [value.span] r)
    (target : assignTo? (lhs.span.extend r.last) value lhs = some e) :
    Joins source tokens s lhs e r := by
  have front := situated.placed.parts
  cases lhs with
  | var name =>
    obtain rfl := Option.some.inj target
    refine joins_of_parts situated before front passes rfl rfl situated.placed.names ?_
    simpa [Expr.children] using right
  | get span object member =>
    obtain rfl := Option.some.inj target
    refine joins_of_parts situated before front passes rfl rfl situated.placed.names ?_
    have left := situated.of_mem_children (List.mem_singleton_self object)
    simpa [Expr.children] using ⟨left, right⟩
  | index span object key =>
    obtain rfl := Option.some.inj target
    refine joins_of_parts situated before front passes rfl rfl (List.forall_mem_nil _) ?_
    have left := situated.of_mem_children (List.mem_cons_self : object ∈ [object, key])
    have middle := situated.of_mem_children (List.mem_of_mem_tail (List.mem_singleton_self key))
    simpa [Expr.children] using ⟨left, middle, right⟩
  | _ => cases target

theorem join_places (c : Connective) (inside : s.current.token ≠ .endOfInput)
    (below : ∀ m : Stream, m.size < s.size → PlacesAt source tokens m) (h : s.Laid source tokens)
    (situated : lhs.Situated source) (before : lhs.span.stop.byte ≤ s.current.span.start.byte) :
    (join c lhs s inside).Yields (SyntaxError.Placed source tokens)
      (Joins source tokens s lhs) := by
  have passed := h.reached inside
  have fewer := size_next_lt inside
  have sign := Passes.mark passed
  have filled := h.filled inside
  have next := below s.next fewer passed.laid
  cases c with
  | binary | logical | elvis =>
    rw [join]
    refine (next _).andThen fun rhs r _ read => ?_
    obtain ⟨right, passes⟩ := read
    exact joins_of_operand situated before (sign.append passes) rfl rfl (List.forall_mem_nil _)
      (by simpa [Expr.children] using ⟨situated, right⟩)
  | assignment =>
    rw [join]
    refine (next _).andThen fun value r _ read => ?_
    obtain ⟨right, passes⟩ := read
    split
    · rename_i e target
      exact assignTo?_places situated before right (sign.append passes) target
    · exact SyntaxError.placed_of_filled h.current.span filled rfl
  | ternary =>
    rw [join]
    refine (next _).andThen fun yes m shorter read => ?_
    obtain ⟨middle, passes⟩ := read
    refine (expect_places passes.reached.laid _ _).andThen fun _ m' fewer' colon => ?_
    obtain ⟨-, colon⟩ := colon
    have later := below m' (by omega) colon.reached.laid
    refine (later _).andThen fun no r _ read => ?_
    obtain ⟨right, passes'⟩ := read
    have all := ((sign.append passes).append colon).append passes'
    exact joins_of_operand situated before all rfl rfl (List.forall_mem_nil _)
      (by simpa [Expr.children] using ⟨situated, middle, right⟩)
  | call =>
    rw [join]
    have upto : ∀ j : Stream, j.size ≤ s.next.size → PlacesAt source tokens j :=
      fun j most => below j (by omega)
    have listed := arguments_places h.current.span filled upto passed.laid
    refine listed.andThen fun found r _ lists => ?_
    split
    · rename_i span target method
      have left := situated.of_mem_children (List.mem_singleton_self target)
      refine joins_of_parts situated before situated.placed.parts (sign.append lists.passes) rfl rfl
        situated.placed.names ?_
      simpa [Expr.children] using ⟨left, lists.situated⟩
    · exact SyntaxError.placed_of_filled situated.placed.span situated.placed.filled rfl
  | member =>
    rw [join]
    refine (memberName_places passed.laid).andThen fun member r _ named => ?_
    obtain ⟨name, passes⟩ := named
    exact joins_of_operand situated before (sign.append passes) rfl rfl
      (by simpa [Expr.names] using name) (by simpa [Expr.children] using situated)
  | index =>
    rw [join]
    refine (next _).andThen fun key m shorter read => ?_
    obtain ⟨right, passes⟩ := read
    have closes := close_places passes.reached.laid .leftBracket .index h.current.span filled
    refine closes.andThen fun _ r _ closed => ?_
    have all := (sign.append passes).append closed
    exact joins_of_operand situated before all rfl rfl (List.forall_mem_nil _)
      (by simpa [Expr.children] using ⟨situated, right⟩)

/-- An operand before the stream, and what is joined to it up to another stream. -/
structure Extends (source : List Char) (tokens : List SpannedToken) (s : Stream) (lhs e : Expr Span)
    (r : Stream) : Prop where
  situated : e.Situated source
  onward : s = r ∨ Reached source tokens s r
  starts : e.span.start = lhs.span.start
  stops : e.span.stop.byte ≤ r.last.stop.byte

theorem joined_places (s : Stream) (lhs : Expr Span) (context : Precedence)
    (below : ∀ m : Stream, m.size < s.size → PlacesAt source tokens m) (h : s.Laid source tokens)
    (situated : lhs.Situated source) (before : lhs.span.stop.byte ≤ s.last.stop.byte) :
    (joined context lhs s).Yields (SyntaxError.Placed source tokens)
      (Extends source tokens s lhs) := by
  rw [joined]
  split
  · exact ⟨situated, .inl rfl, rfl, before⟩
  · rename_i c ahead
    split
    · have ordered := Nat.le_trans before h.behind_le
      have joins := join_places c (ne_end_of_ofToken? ahead) below h situated ordered
      refine joins.andThen fun lhs' m shorter joined => ?_
      have below' : ∀ j : Stream, j.size < m.size → PlacesAt source tokens j :=
        fun j less => below j (by omega)
      have before' : lhs'.span.stop.byte ≤ m.last.stop.byte := by rw [joined.stops]
      have more :=
        joined_places m lhs' context below' joined.reached.laid joined.situated before'
      refine (more.widen _).imp fun e r rest => ?_
      refine ⟨rest.situated, .inr ?_, rest.starts.trans joined.starts, rest.stops⟩
      rcases rest.onward with rfl | further
      · exact joined.reached
      · exact joined.reached.trans further
    · exact ⟨situated, .inl rfl, rfl, before⟩
termination_by s.size

theorem operand_places (below : ∀ m : Stream, m.size < s.size → PlacesAt source tokens m)
    (h : s.Laid source tokens) :
    (operand s).Yields (SyntaxError.Placed source tokens) fun e r =>
      e.Situated source ∧ Passes source tokens s [e.span] r := by
  rw [operand]
  split
  · exact unary_places _ _ below h
  · exact unary_places _ _ below h
  · exact unary_places _ _ below h
  · exact builtinCall_places _ _ below h
  · exact builtinCall_places _ _ below h
  · rename_i opens
    have passed := h.reached_mark opens
    have filled := h.filled (by simp [opens])
    have inside := below s.next (size_next_lt_of_mark opens) passed.laid .lowest
    refine inside.andThen fun e m _ read => ?_
    obtain ⟨situated, passes⟩ := read
    have closes := close_places passes.reached.laid .leftParen .expression h.current.span filled
    refine closes.andThen fun _ r _ closed => ?_
    exact ⟨situated, ((Passes.mark passed).append passes).append closed⟩
  · split
    · rename_i e leaf
      exact literal?_places h leaf
    · exact h.fail rfl

theorem expression_places (s : Stream) : PlacesAt source tokens s := by
  intro h context
  have below : ∀ m : Stream, m.size < s.size → PlacesAt source tokens m :=
    fun m _ => expression_places m
  rw [expression]
  refine (operand_places below h).andThen fun lhs m fewer first => ?_
  obtain ⟨situated, passes⟩ := first
  have below' : ∀ j : Stream, j.size < m.size → PlacesAt source tokens j :=
    fun j less => below j (by omega)
  obtain ⟨starts, stops⟩ := passes.row.within lhs.span (List.mem_singleton_self _)
  have more := joined_places m lhs context below' passes.reached.laid situated stops
  refine (more.widen _).imp fun e r rest => ⟨rest.situated, ?_, .single ?_ rest.stops⟩
  · rcases rest.onward with rfl | further
    · exact passes.reached
    · exact passes.reached.trans further
  · rwa [rest.starts]
termination_by s.size

/-! ### Statements -/

theorem condition_places (keyword : Construct) (h : s.Laid source tokens) :
    (condition keyword s).Yields (SyntaxError.Placed source tokens) fun e r =>
      e.Situated source ∧ Passes source tokens s [e.span] r := by
  unfold condition
  refine (expect_places h .leftParen keyword).andThen fun _ m _ opens => ?_
  obtain ⟨filled, opens⟩ := opens
  refine (expression_places m opens.reached.laid .lowest).andThen fun e m' _ read => ?_
  obtain ⟨situated, passes⟩ := read
  have closes := close_places passes.reached.laid .leftParen .condition h.current.span filled
  refine closes.andThen fun _ r _ closed => ?_
  exact ⟨situated, (opens.append passes).append closed⟩

/-- A statement that starts with the token ahead, with its parts behind it. -/
theorem stmt_headed {t : Stmt Span} (h : s.Laid source tokens)
    (passes : Passes source tokens s t.parts r) (span : t.span = s.current.span.extend r.last)
    (operands : ∀ e ∈ t.operands, e.Situated source)
    (children : ∀ child ∈ t.children, child.Situated source) :
    t.Situated source ∧ Passes source tokens s [t.span] r := by
  obtain ⟨place, filled, row, passed⟩ := passes.headed h span
  exact ⟨.of_children ⟨place, filled, row⟩ operands children, passed⟩

theorem expressionStatement_places (h : s.Laid source tokens) :
    (expressionStatement s).Yields (SyntaxError.Placed source tokens) fun t r =>
      t.Situated source ∧ Passes source tokens s [t.span] r := by
  unfold expressionStatement
  refine (expression_places s h .lowest).andThen fun e m _ read => ?_
  obtain ⟨situated, passes⟩ := read
  have operand : ∀ e' ∈ [e], e'.Situated source := by simpa using situated
  split
  · rename_i semicolon
    have passes := passes.append (.mark (passes.reached.laid.reached_mark semicolon))
    exact stmt_headed h passes rfl operand (List.forall_mem_nil _)
  · split
    · exact stmt_headed h passes rfl operand (List.forall_mem_nil _)
    · exact passes.reached.laid.fail rfl

/-- From a stream statements are read at their places. -/
def StatementPlacesAt (source : List Char) (tokens : List SpannedToken) (s : Stream) : Prop :=
  s.Laid source tokens → (statement s).Yields (SyntaxError.Placed source tokens) fun t r =>
    t.Situated source ∧ Passes source tokens s [t.span] r

theorem conditional_places (inside : s.current.token ≠ .endOfInput)
    (below : ∀ m : Stream, m.size < s.size → StatementPlacesAt source tokens m)
    (h : s.Laid source tokens) :
    (conditional s inside).Yields (SyntaxError.Placed source tokens) fun t r =>
      t.Situated source ∧ Passes source tokens s [t.span] r := by
  rw [conditional]
  have passed := h.reached inside
  have fewer := size_next_lt inside
  refine (condition_places .ifWord passed.laid).andThen fun test m shorter tested => ?_
  obtain ⟨tested, first⟩ := tested
  have later := below m (by omega) first.reached.laid
  refine later.andThen fun yes m' shorter' read => ?_
  obtain ⟨left, second⟩ := read
  have both := ((Passes.mark passed).append first).append second
  have operand : ∀ e ∈ [test], e.Situated source := by simpa using tested
  split
  · rename_i other
    have inside' : m'.current.token ≠ .endOfInput := by simp [other]
    have passed' := second.reached.laid.reached inside'
    have fewer' := size_next_lt inside'
    have last := below m'.next (by omega) passed'.laid
    refine last.andThen fun no r _ read => ?_
    obtain ⟨right, third⟩ := read
    exact stmt_headed h ((both.append (.mark passed')).append third) rfl operand
      (by simpa [Stmt.children] using ⟨left, right⟩)
  · exact stmt_headed h both rfl operand (by simpa [Stmt.children] using left)

theorem loop_places (inside : s.current.token ≠ .endOfInput)
    (below : ∀ m : Stream, m.size < s.size → StatementPlacesAt source tokens m)
    (h : s.Laid source tokens) :
    (loop s inside).Yields (SyntaxError.Placed source tokens) fun t r =>
      t.Situated source ∧ Passes source tokens s [t.span] r := by
  rw [loop]
  have passed := h.reached inside
  have fewer := size_next_lt inside
  refine (condition_places .whileWord passed.laid).andThen fun test m shorter tested => ?_
  obtain ⟨tested, first⟩ := tested
  have later := below m (by omega) first.reached.laid
  refine later.andThen fun body r _ read => ?_
  obtain ⟨inner, second⟩ := read
  exact stmt_headed h (((Passes.mark passed).append first).append second) rfl
    (by simpa [Stmt.operands] using tested) (by simpa [Stmt.children] using inner)

theorem block_places (s : Stream) {opened : Span} (place : opened.In source)
    (filled : opened.start.byte < opened.stop.byte)
    (upto : ∀ m : Stream, m.size ≤ s.size → StatementPlacesAt source tokens m)
    (h : s.Laid source tokens) :
    (block opened s).Yields (SyntaxError.Placed source tokens) fun body r =>
      (∀ t ∈ body, t.Situated source) ∧ Passes source tokens s (body.map Stmt.span) r := by
  rw [block]
  split
  · refine (close_places h .leftBrace .block place filled).andThen fun _ r _ closed => ?_
    exact ⟨List.forall_mem_nil _, closed⟩
  · refine (upto s (Nat.le_refl _) h).andThen fun first m shorter read => ?_
    obtain ⟨situated, passes⟩ := read
    have upto' : ∀ j : Stream, j.size ≤ m.size → StatementPlacesAt source tokens j :=
      fun j most => upto j (by omega)
    have more := block_places m place filled upto' passes.reached.laid
    refine more.andThen fun others r _ rest => ?_
    exact ⟨List.forall_mem_cons.2 ⟨situated, rest.1⟩, passes.append rest.2⟩
termination_by s.size

theorem statement_places (s : Stream) : StatementPlacesAt source tokens s := by
  intro h
  have below : ∀ m : Stream, m.size < s.size → StatementPlacesAt source tokens m :=
    fun m _ => statement_places m
  rw [statement]
  split
  · rename_i semicolon
    exact stmt_headed h (.mark (h.reached_mark semicolon)) rfl (List.forall_mem_nil _)
      (List.forall_mem_nil _)
  · exact conditional_places _ below h
  · exact loop_places _ below h
  · rename_i opens
    have passed := h.reached_mark opens
    have filled := h.filled (by simp [opens])
    have shorter := size_next_lt_of_mark opens
    have upto : ∀ m : Stream, m.size ≤ s.next.size → StatementPlacesAt source tokens m :=
      fun m most => below m (by omega)
    have inside := block_places s.next h.current.span filled upto passed.laid
    refine inside.andThen fun body r _ read => ?_
    exact stmt_headed h ((Passes.mark passed).append read.2) rfl (List.forall_mem_nil _) read.1
  · exact expressionStatement_places h
termination_by s.size

theorem script_places (s : Stream) (h : s.Laid source tokens) :
    (script s).Yields (SyntaxError.Placed source tokens) fun body _ =>
      (∀ t ∈ body, t.Situated source) ∧
        Span.Row s.current.span.start.byte (bytes source) (body.map Stmt.span) := by
  rw [script]
  split
  · exact ⟨List.forall_mem_nil _, .nil⟩
  · refine (statement_places s h).andThen fun first m shorter read => ?_
    obtain ⟨situated, passes⟩ := read
    refine (script_places m passes.reached.laid).andThen fun others r _ rest => ?_
    have behind := passes.reached.laid.behind_le
    have ahead := passes.reached.ahead_lt
    have inside := passes.reached.laid.current.span
    have within := Nat.le_trans inside.start_le_stop inside.stop_le
    have front := passes.row.mono (Nat.le_refl _) behind
    exact ⟨List.forall_mem_cons.2 ⟨situated, rest.1⟩, front.append rest.2 (by omega) within⟩
termination_by s.size

theorem unit_places (mode : Mode) (h : s.Laid source tokens) :
    (s.unit mode).Yields (SyntaxError.Placed source tokens) fun tree _ => tree.Situated source := by
  cases mode with
  | expression =>
    rw [unit]
    refine (expression_places s h .lowest).andThen fun e r _ read => ?_
    obtain ⟨situated, passes⟩ := read
    have laid : r.skipSemicolon.Laid source tokens := by
      unfold skipSemicolon
      split
      · rename_i semicolon
        exact (passes.reached.laid.reached_mark semicolon).laid
      · exact passes.reached.laid
    split
    · exact ⟨situated, List.forall_mem_nil _, .single (Nat.zero_le _) situated.placed.span.stop_le⟩
    · exact laid.fail rfl
  | script =>
    rw [unit]
    refine (script_places s h).andThen fun body r _ read => ?_
    obtain ⟨situated, row⟩ := read
    refine ⟨fun e listed => ?_, fun t listed => ?_, row.mono (Nat.zero_le _) (Nat.le_refl _)⟩
    · obtain ⟨t, among, within⟩ := Stmt.mem_exprsOfAll.1 listed
      exact (situated t among).exprs e within
    · obtain ⟨t', among, within⟩ := Stmt.mem_nodesOfAll.1 listed
      exact (situated t' among).nodes t within

end Stream

end ExprScript
