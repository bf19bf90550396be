import ExprScript.Proofs.Grammar.Shape
import ExprScript.Proofs.Parse.Statements
import ExprScript.Proofs.Source.Shifting

/-!
# Streams that go on

What an expression is read of it is read of as well when a semicolon and other tokens stand in the
place of the end of the input and the tokens before it are somewhere else: the tree is the same with
its spans moved, since no expression goes on with a semicolon.
-/

namespace ExprScript

/-- What stands in the place of the end of the input, and where the spans before it are: a semicolon
and what can follow a statement, or only another end. -/
structure Continuation where
  move : Span → Span
  move_extend : ∀ a b, move (a.extend b) = (move a).extend (move b)
  tail : List SpannedToken
  closes : ∀ t ∈ tail.head?, t.token = .endOfInput ∨ t.token = .punctuation .semicolon
  noElse : ∀ t ∈ tail.tail.head?, t.token ≠ .keyword .elseWord

theorem Expr.span_map (f : Span → Span) (e : Expr Span) : (e.map f).span = f e.span := by
  cases e <;> rfl

namespace Stream

variable (k : Continuation) {s r : Stream}

/-- The tokens ahead, without the end of the input. -/
def inside (s : Stream) : List SpannedToken :=
  s.rest.takeWhile (·.token ≠ .endOfInput)

theorem inside_of_end (h : s.current.token = .endOfInput) : s.inside = [] := by
  obtain ⟨rest, last⟩ := s
  cases rest <;> simp_all [inside, current]

theorem inside_of_current (h : s.current.token ≠ .endOfInput) :
    s.inside = s.current :: s.next.inside := by
  obtain ⟨rest, last⟩ := s
  cases rest <;> simp_all [inside, current, next]

/-- The stream with the continuation in the place of the end of the input. -/
def continued (s : Stream) : Stream :=
  ⟨s.inside.map (·.move k.move) ++ k.tail, k.move s.last⟩

theorem continued_current (h : s.current.token ≠ .endOfInput) :
    (s.continued k).current = s.current.move k.move := by
  simp [continued, inside_of_current h, current]

theorem continued_next (h : s.current.token ≠ .endOfInput) :
    (s.continued k).next = s.next.continued k := by
  have ahead := continued_current k h
  simp only [next, ahead]
  simp only [continued, inside_of_current h]
  rfl

theorem continued_of_end (h : s.current.token = .endOfInput) : (s.continued k).rest = k.tail := by
  simp [continued, inside_of_end h]

theorem continued_token {t : Token} (h : s.current.token = t) (inside : t ≠ .endOfInput) :
    (s.continued k).current.token = t := by
  rw [continued_current k (current_ne_end h inside), ← h]
  rfl

/-- No connective is read over the seam. -/
theorem continued_connective :
    Connective.ofToken? (s.continued k).current.token = Connective.ofToken? s.current.token := by
  by_cases last : s.current.token = .endOfInput
  · rw [last, current, continued_of_end k last, List.headD_eq_head?_getD]
    cases ahead : k.tail.head? with
    | none => rfl
    | some t =>
      rcases k.closes t ahead with token | token
      · simp [token]
      · simp [token, Connective.ofToken?]
  · rw [continued_current k last]
    rfl

theorem Takes.continued {word : List Token} (h : Takes s word r) :
    Takes (s.continued k) word (r.continued k) := by
  induction h with
  | nil => exact .nil
  | @cons s word r inside _ ih =>
    rw [← continued_next k inside] at ih
    exact Takes.cons_iff.2 ⟨continued_token k rfl inside, inside, ih⟩

/-! ### Expressions -/

theorem literal?_move (f : Span → Span) (t : SpannedToken) :
    literal? (t.move f) = (literal? t).map (Expr.map f) := by
  obtain ⟨token, span⟩ := t
  cases token with
  | keyword word => cases word <;> rfl
  | _ => rfl

theorem assignTo?_map (f : Span → Span) (span : Span) (value lhs : Expr Span) :
    assignTo? (f span) (value.map f) (lhs.map f) = (assignTo? span value lhs).map (Expr.map f) := by
  cases lhs <;> rfl

/-- Whatever an expression is read of, it is read of as well when the stream goes on. -/
def ContinuesAt (s : Stream) : Prop :=
  ∀ p e r, (expression p s).Gives e r →
    (expression p (s.continued k)).Gives (e.map k.move) (r.continued k)

variable {k} {e lhs : Expr Span} {p : Precedence}

theorem memberName_continued {name : Name Span} (h : s.memberName.Gives name r) :
    (s.continued k).memberName.Gives (name.map k.move) (r.continued k) := by
  obtain ⟨taken, text, span⟩ := memberName_gives.1 h
  have inside : s.current.token ≠ .endOfInput := (Takes.cons_iff.1 taken).2.1
  refine memberName_gives.2 ?_
  rw [continued_current k inside]
  exact ⟨taken.continued k, text, congrArg k.move span⟩

theorem moreArguments_continued {s r : Stream} {opened opened' : Span}
    (below : ∀ m : Stream, m.size < s.size → ContinuesAt k m) {es : List (Expr Span)}
    (h : (moreArguments opened s).Gives es r) :
    (moreArguments opened' (s.continued k)).Gives (es.map (Expr.map k.move)) (r.continued k) := by
  rcases moreArguments_gives.1 h with ⟨closed, rfl⟩ | ⟨e, others, m, m', comma, first, more, rfl⟩
  · exact moreArguments_gives.2 (.inl ⟨closed.continued k, rfl⟩)
  · have passed := comma.size_lt
    have shorter := Nat.lt_trans first.fewer passed
    have later : ∀ j : Stream, j.size < m'.size → ContinuesAt k j :=
      fun j fewer => below j (Nat.lt_trans fewer shorter)
    exact moreArguments_gives.2 (.inr ⟨_, _, _, _, comma.continued k, below m passed _ _ _ first,
      moreArguments_continued later more, rfl⟩)
termination_by s.size

theorem arguments_continued {opened opened' : Span} (here : ContinuesAt k s)
    (below : ∀ m : Stream, m.size < s.size → ContinuesAt k m) {es : List (Expr Span)}
    (h : (arguments opened s).Gives es r) :
    (arguments opened' (s.continued k)).Gives (es.map (Expr.map k.move)) (r.continued k) := by
  rcases arguments_gives.1 h with ⟨closed, rfl⟩ | ⟨other, e, others, m, first, more, rfl, few⟩
  · exact arguments_gives.2 (.inl ⟨closed.continued k, rfl⟩)
  · have inside := ne_end_of_expression_gives first
    have later : ∀ j : Stream, j.size < m.size → ContinuesAt k j :=
      fun j fewer => below j (Nat.lt_trans fewer first.fewer)
    refine arguments_gives.2 (.inr ⟨?_, _, _, _, here _ _ _ first,
      moreArguments_continued later more, rfl, by simpa using few⟩)
    rwa [continued_token k rfl inside]

/-- Spans from a token or a tree to the last token taken move with both. -/
theorem extend_continued {span : Span} :
    (k.move span).extend (r.continued k).last = k.move (span.extend r.last) :=
  (k.move_extend span r.last).symm

/-- What a connective joins to an expression it joins as well when the stream goes on. -/
theorem join_continued {c : Connective} {h : s.current.token ≠ .endOfInput}
    {h' : (s.continued k).current.token ≠ .endOfInput}
    (below : ∀ m : Stream, m.size < s.size → ContinuesAt k m)
    (joined : (join c lhs s h).Gives e r) :
    (join c (lhs.map k.move) (s.continued k) h').Gives (e.map k.move) (r.continued k) := by
  have passed : s.next.size < s.size := size_next_lt h
  have next := continued_next k h
  have span : (lhs.map k.move).span.extend (r.continued k).last =
      k.move (lhs.span.extend r.last) := by
    rw [Expr.span_map, extend_continued]
  cases c with
  | binary op =>
    obtain ⟨rhs, found, rfl⟩ := join_binary.1 joined
    exact join_binary.2 ⟨_, next ▸ below _ passed _ _ _ found, by rw [span]; rfl⟩
  | logical op =>
    obtain ⟨rhs, found, rfl⟩ := join_logical.1 joined
    exact join_logical.2 ⟨_, next ▸ below _ passed _ _ _ found, by rw [span]; rfl⟩
  | assignment =>
    obtain ⟨value, found, target⟩ := join_assignment.1 joined
    refine join_assignment.2 ⟨_, next ▸ below _ passed _ _ _ found, ?_⟩
    rw [span, assignTo?_map, target, Option.map_some]
  | ternary =>
    obtain ⟨yes, m, m', no, first, colon, second, rfl⟩ := join_ternary.1 joined
    have shorter := Nat.lt_trans colon.size_lt (Nat.lt_trans first.fewer passed)
    exact join_ternary.2 ⟨_, _, _, _, next ▸ below _ passed _ _ _ first, colon.continued k,
      below _ shorter _ _ _ second, by rw [span]; rfl⟩
  | elvis =>
    obtain ⟨rhs, found, rfl⟩ := join_elvis.1 joined
    exact join_elvis.2 ⟨_, next ▸ below _ passed _ _ _ found, by rw [span]; rfl⟩
  | call =>
    obtain ⟨span', target, method, found, rfl, given, rfl⟩ := join_call.1 joined
    have later : ∀ j : Stream, j.size < s.next.size → ContinuesAt k j :=
      fun j fewer => below j (Nat.lt_trans fewer passed)
    refine join_call.2 ⟨_, _, _, _, rfl,
      next ▸ arguments_continued (below _ passed) later given, ?_⟩
    rw [span, ← Expr.mapAll_eq_map]
    rfl
  | member =>
    obtain ⟨member, found, rfl⟩ := join_member.1 joined
    exact join_member.2 ⟨_, next ▸ memberName_continued found, by rw [span]; rfl⟩
  | index =>
    obtain ⟨key, m, first, close, rfl⟩ := join_index.1 joined
    exact join_index.2 ⟨_, _, next ▸ below _ passed _ _ _ first, close.continued k,
      by rw [span]; rfl⟩

theorem joined_continued {s r : Stream} {lhs e : Expr Span}
    (below : ∀ m : Stream, m.size < s.size → ContinuesAt k m) (found : (joined p lhs s).Gives e r) :
    (joined p (lhs.map k.move) (s.continued k)).Gives (e.map k.move) (r.continued k) := by
  have same := continued_connective k (s := s)
  by_cases stop : ∀ c, Connective.ofToken? s.current.token = some c → c.binds p = false
  · obtain ⟨rfl, rfl⟩ := (joined_stop stop).1 found
    exact (joined_stop (same ▸ stop)).2 ⟨rfl, rfl⟩
  · obtain ⟨c, ahead, binds⟩ : ∃ c, Connective.ofToken? s.current.token = some c ∧
        c.binds p = true := by
      simpa using stop
    obtain ⟨e', m, first, more⟩ := (joined_step ahead binds).1 found
    have later : ∀ j : Stream, j.size < m.size → ContinuesAt k j :=
      fun j fewer => below j (Nat.lt_trans fewer first.fewer)
    have fewer := first.fewer
    exact (joined_step (same.trans ahead) binds).2 ⟨_, _, join_continued below first,
      joined_continued later more⟩
termination_by s.size

theorem operand_continued (below : ∀ m : Stream, m.size < s.size → ContinuesAt k m)
    (found : (operand s).Gives e r) :
    (operand (s.continued k)).Gives (e.map k.move) (r.continued k) := by
  rcases operand_gives.1 found with
    ⟨op, e', token, inner, rfl⟩ | ⟨function, argument, m, token, opened, given, rfl⟩ |
    ⟨m, token, inner, close⟩ | ⟨leaf, rfl⟩
  · have here := current_ne_end token (by simp)
    refine operand_gives.2 (.inl ⟨op, _, continued_token k token (by simp),
      continued_next k here ▸ below _ (size_next_lt here) _ _ _ inner, ?_⟩)
    rw [continued_current k here]
    exact congrArg (Expr.unary · op (e'.map k.move)) extend_continued
  · have here := current_ne_end token (by simp)
    have shorter := Nat.lt_trans opened.size_lt (size_next_lt here)
    have later : ∀ j : Stream, j.size < m.size → ContinuesAt k j :=
      fun j fewer => below j (Nat.lt_trans fewer shorter)
    refine operand_gives.2 (.inr (.inl ⟨function, argument.map k.move, m.continued k,
      continued_token k token (by simp), continued_next k here ▸ opened.continued k,
      arguments_continued (below _ shorter) later given, ?_⟩))
    rw [continued_current k here]
    exact congrArg (Expr.builtin · function (argument.map k.move)) extend_continued
  · have here := current_ne_end token (by simp)
    exact operand_gives.2 (.inr (.inr (.inl ⟨m.continued k, continued_token k token (by simp),
      continued_next k here ▸ below _ (size_next_lt here) _ _ _ inner, close.continued k⟩)))
  · have here := ne_end_of_literal? leaf
    refine operand_gives.2 (.inr (.inr (.inr ⟨?_, continued_next k here⟩)))
    rw [continued_current k here, literal?_move, leaf, Option.map_some]

theorem expression_continued (s : Stream) : ContinuesAt k s := by
  intro p e r found
  have below : ∀ m : Stream, m.size < s.size → ContinuesAt k m := fun m _ => expression_continued m
  obtain ⟨lhs, m, first, more⟩ := expression_gives.1 found
  have later : ∀ j : Stream, j.size < m.size → ContinuesAt k j :=
    fun j fewer => below j (Nat.lt_trans fewer first.fewer)
  exact expression_gives.2 ⟨_, _, operand_continued below first, joined_continued later more⟩
termination_by s.size

end Stream

end ExprScript
