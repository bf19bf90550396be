import ExprScript.Proofs.Grammar.Unambiguous
import ExprScript.Proofs.Parse.Places
import ExprScript.Proofs.Tree.Nodes

/-!
# The tokens that a node covers

A node covers a run of tokens, from where its first part starts up to the last token taken for it.
Parentheses around an operand are no part of what the operand covers, so a node that starts with an
operand in parentheses covers those that close but not those that open. Where as many are opened as
closed, the run is a phrase of the shape of the node.
-/

namespace ExprScript

open Grammar

namespace Grammar

/-- As many parentheses are opened as closed. -/
def ParensPaired (word : List Token) : Prop :=
  word.count (mark .leftParen) = word.count (mark .rightParen)

instance (word : List Token) : Decidable (ParensPaired word) := inferInstanceAs (Decidable (_ = _))

variable {word word' : List Token} {t : Token}

theorem ParensPaired.append (h : ParensPaired word) (h' : ParensPaired word') :
    ParensPaired (word ++ word') := by
  rw [ParensPaired] at h h' ⊢
  rw [List.count_append, List.count_append, h, h']

theorem parensPaired_cons (left : t ≠ mark .leftParen) (right : t ≠ mark .rightParen) :
    ParensPaired (t :: word) ↔ ParensPaired word := by
  rw [ParensPaired, ParensPaired, List.count_cons_of_ne left, List.count_cons_of_ne right]

theorem parensPaired_single (left : t ≠ mark .leftParen) (right : t ≠ mark .rightParen) :
    ParensPaired [t] :=
  (parensPaired_cons left right).2 rfl

theorem ParensPaired.parens (h : ParensPaired word) :
    ParensPaired (mark .leftParen :: word ++ [mark .rightParen]) := by
  rw [ParensPaired] at h ⊢
  simp [h]

theorem parensPaired_commaSeparated {words : List (List Token)}
    (h : ∀ word ∈ words, ParensPaired word) : ParensPaired (commaSeparated words) := by
  have comma {words : List (List Token)} (h : ∀ word ∈ words, ParensPaired word) :
      ParensPaired (words.flatMap (mark .comma :: ·)) := by
    induction words with
    | nil => rfl
    | cons word rest ih =>
      rw [List.forall_mem_cons] at h
      exact ((parensPaired_cons (by simp) (by simp)).2 h.1).append (ih h.2)
  cases words with
  | nil => rfl
  | cons word rest =>
    rw [List.forall_mem_cons] at h
    exact h.1.append (comma h.2)

theorem Phrase.parensPaired {level : Level} {d : Expr Parens} (h : Phrase level word d) :
    ParensPaired word := by
  have sign {s : Sign} {word : List Token} : ParensPaired (.sign s :: word) ↔ ParensPaired word :=
    parensPaired_cons (by simp) (by simp)
  induction h with
  | literal value =>
    exact parensPaired_single (value.token_ne_punctuation _) (value.token_ne_punctuation _)
  | var text => exact parensPaired_single (by simp) (by simp)
  | parens _ ih => exact ih.parens
  | builtin function _ ih =>
    exact (parensPaired_cons (by simp) (by simp)).2 ih.parens
  | @get _ _ _ token _ _ member ih =>
    have name (m : Punctuation) : token ≠ mark m := by
      rintro rfl
      simp [Token.memberText?] at member
    exact ih.append
      ((parensPaired_cons (by simp) (by simp)).2 (parensPaired_single (name _) (name _)))
  | index _ _ ih ihKey =>
    have key := ihKey.append (parensPaired_single (t := mark .rightBracket) (by simp) (by simp))
    have opened := (parensPaired_cons (t := mark .leftBracket) (by simp) (by simp)).2 key
    simpa using ih.append opened
  | call arguments _ _ _ ih ihArguments =>
    have given : ParensPaired (commaSeparated (arguments.map Argument.words)) :=
      parensPaired_commaSeparated (List.forall_mem_map.2 ihArguments)
    simpa using ih.append given.parens
  | unary op _ _ ih => exact sign.2 ih
  | binary op _ _ _ ih ih' => exact ih.append (sign.2 ih')
  | logical op _ _ _ ih ih' => exact ih.append (sign.2 ih')
  | ternary _ _ _ _ ih ihYes ihNo =>
    have no := (parensPaired_cons (t := mark .colon) (by simp) (by simp)).2 ihNo
    simpa using ih.append (sign.2 (ihYes.append no))
  | elvis _ _ _ ih ih' => exact ih.append (sign.2 ih')
  | assign _ _ _ ih ih' => exact ih.append (sign.2 ih')
  | assignMember _ _ _ ih ih' => exact ih.append (sign.2 ih')
  | assignIndex _ _ _ ih ih' => exact ih.append (sign.2 ih')

/-- When a word and the end of it are both paired, no parenthesis is opened in front of this end. -/
theorem ParensPaired.no_opening {opens : List Token} (opened : ∀ t ∈ opens, t = mark .leftParen)
    (whole : ParensPaired (opens ++ word)) (h : ParensPaired word) : opens = [] := by
  have all : opens = List.replicate opens.length (mark .leftParen) :=
    List.eq_replicate_iff.2 ⟨rfl, opened⟩
  rw [ParensPaired, all, List.count_append, List.count_append, h, List.count_replicate_self,
    List.count_replicate] at whole
  simpa using whole

end Grammar

/-- The span starts with the first of some tokens and stops with the last. -/
structure Span.Covers (span : Span) (run : List SpannedToken) : Prop where
  first : ∃ t ∈ run.head?, span.start = t.span.start
  last : ∃ t ∈ run.getLast?, span.stop = t.span.stop

/-- An expression covers a run of tokens, which is a phrase of its shape if the parentheses in it are
paired. -/
structure Expr.WrittenAs (e : Expr Span) (run : List SpannedToken) : Prop where
  covers : e.span.Covers run
  phrase : ParensPaired (run.map SpannedToken.token) →
    ∃ d, Phrase .assignment (run.map SpannedToken.token) d ∧ d.shape = e.shape

/-- An expression covers a run of the given tokens, without the end token. -/
def Expr.Among (tokens : List SpannedToken) (e : Expr Span) : Prop :=
  ∃ run, run <:+: tokens ∧ (∀ t ∈ run, t.token ≠ .endOfInput) ∧ e.WrittenAs run

namespace Stream

open Parsed

variable {source : List Char} {tokens run run' : List SpannedToken} {s₀ s m r : Stream}
  {word left : List Token} {e lhs child : Expr Span} {p : Precedence} {c : Connective}

/-- The tokens between two streams. -/
structure Between (s : Stream) (run : List SpannedToken) (r : Stream) : Prop where
  rest : s.rest = run ++ r.rest
  last : r.last = run.foldl (fun _ t => t.span) s.last
  inside : ∀ t ∈ run, t.token ≠ .endOfInput

theorem Between.append (h : Between s run m) (h' : Between m run' r) : Between s (run ++ run') r where
  rest := by rw [h.rest, h'.rest, List.append_assoc]
  last := by rw [h'.last, h.last, List.foldl_append]
  inside := List.forall_mem_append.2 ⟨h.inside, h'.inside⟩

theorem Between.single (inside : s.current.token ≠ .endOfInput) : Between s [s.current] s.next := by
  obtain ⟨rest, last⟩ := s
  cases rest with
  | nil => exact absurd rfl inside
  | cons t rest => exact ⟨rfl, rfl, by simpa [current] using inside⟩

theorem Takes.between (taken : Takes s word r) :
    ∃ run, Between s run r ∧ run.map SpannedToken.token = word := by
  induction taken with
  | nil => exact ⟨[], ⟨rfl, rfl, List.forall_mem_nil _⟩, rfl⟩
  | cons inside _ ih =>
    obtain ⟨run, between, rfl⟩ := ih
    exact ⟨_ :: run, (Between.single inside).append between, rfl⟩

theorem Between.unique (h : Between s run r) (h' : Between s run' r) : run = run' :=
  List.append_cancel_right (h.rest.symm.trans h'.rest)

theorem Between.ne_nil (h : Between s run r) (fewer : r.size < s.size) : run ≠ [] := by
  rintro rfl
  have same : s.rest = r.rest := h.rest
  rw [size, size, same] at fewer
  exact Nat.lt_irrefl _ fewer

theorem Between.head (h : Between s run r) (nonempty : run ≠ []) : s.current ∈ run.head? := by
  obtain ⟨t, more, rfl⟩ := List.exists_cons_of_ne_nil nonempty
  have first : s.rest = t :: (more ++ r.rest) := h.rest
  simp [current, first]

/-- The last token between two streams is the one that was taken last. -/
theorem Between.getLast (h : Between s run r) (nonempty : run ≠ []) :
    ∃ t ∈ run.getLast?, r.last = t.span := by
  obtain ⟨front, t, rfl⟩ := (List.eq_nil_or_concat' run).resolve_left nonempty
  exact ⟨t, by simp, by simpa using h.last⟩

/-- The stream is the rest of tokens that follow each other in the source. -/
structure Along (source : List Char) (tokens : List SpannedToken) (s : Stream) : Prop where
  laid : s.Laid source tokens
  suffix : s.rest <:+ tokens

theorem Along.takes (h : Along source tokens s) (taken : Takes s word r) : Along source tokens r := by
  induction taken with
  | nil => exact h
  | cons inside _ ih =>
    refine ih ⟨h.laid.next inside, ?_⟩
    exact (List.suffix_append _ _).trans ((Between.single inside).rest ▸ h.suffix)

/-- Between two streams an expression is read: parentheses that open, what the expression covers, and
parentheses that close. -/
structure Wraps (s : Stream) (opens run closes : List SpannedToken) (e : Expr Span) (r : Stream) :
    Prop where
  between : Between s (opens ++ run ++ closes) r
  opened : ∀ t ∈ opens, t.token = mark .leftParen
  written : e.WrittenAs run

theorem Wraps.among {opens closes : List SpannedToken} (h : Wraps s opens run closes e r)
    (suffix : s.rest <:+ tokens) : e.Among tokens := by
  obtain ⟨front, rfl⟩ := suffix
  refine ⟨run, ⟨front ++ opens, closes ++ r.rest, ?_⟩, fun t listed => ?_, h.written⟩
  · simp [h.between.rest]
  · exact h.between.inside t (by simp [listed])

/-! ### The parts of what is read -/

/-- An expression is read on the stream or further on. -/
def ReadFrom (s : Stream) (e : Expr Span) : Prop :=
  ∃ word m p r, Takes s word m ∧ (expression p m).Gives e r

theorem ReadFrom.here (found : (expression p s).Gives e r) : ReadFrom s e :=
  ⟨[], s, p, r, .nil, found⟩

theorem ReadFrom.behind (taken : Takes s word m) (h : ReadFrom m e) : ReadFrom s e := by
  obtain ⟨word', m', p, r, taken', found⟩ := h
  exact ⟨_, m', p, r, Takes.append_iff.2 ⟨m, taken, taken'⟩, found⟩

theorem takes_of_gives (found : (expression p s).Gives e r) : ∃ word, Takes s word r := by
  obtain ⟨⟨word, _, taken, -⟩, -⟩ := expression_sound s _ _ _ found
  exact ⟨word, taken⟩

theorem moreArguments_readFrom {opened : Span} {s r : Stream} {es : List (Expr Span)}
    (found : (moreArguments opened s).Gives es r) : ∀ e ∈ es, ReadFrom s e := by
  rcases moreArguments_gives.1 found with ⟨-, rfl⟩ | ⟨e, others, m, m', comma, first, more, rfl⟩
  · exact List.forall_mem_nil _
  · obtain ⟨word, taken⟩ := takes_of_gives first
    have shorter := Nat.lt_trans first.fewer comma.size_lt
    have later := moreArguments_readFrom more
    exact List.forall_mem_cons.2 ⟨.behind comma (.here first),
      fun e listed => .behind comma (.behind taken (later e listed))⟩
termination_by s.size

theorem arguments_readFrom {opened : Span} {es : List (Expr Span)}
    (found : (arguments opened s).Gives es r) : ∀ e ∈ es, ReadFrom s e := by
  rcases arguments_gives.1 found with ⟨-, rfl⟩ | ⟨-, e, others, m, first, more, rfl, -⟩
  · exact List.forall_mem_nil _
  · obtain ⟨word, taken⟩ := takes_of_gives first
    exact List.forall_mem_cons.2 ⟨.here first,
      fun e listed => .behind taken (moreArguments_readFrom more e listed)⟩

/-- What a connective makes of an operand has it or its parts as parts; the others are read behind. -/
theorem join_children {h : s.current.token ≠ .endOfInput} (joined : (join c lhs s h).Gives e r) :
    ∀ child ∈ e.children, child.nodes ⊆ lhs.nodes ∨ ReadFrom s.next child := by
  have part {child : Expr Span} (listed : child ∈ lhs.children) :
      child.nodes ⊆ lhs.nodes ∨ ReadFrom s.next child :=
    .inl (Expr.nodes_subset_of_mem_children listed)
  cases c with
  | binary op =>
    obtain ⟨rhs, found, rfl⟩ := join_binary.1 joined
    simpa [Expr.children] using .inr (.here found)
  | logical op =>
    obtain ⟨rhs, found, rfl⟩ := join_logical.1 joined
    simpa [Expr.children] using .inr (.here found)
  | assignment =>
    obtain ⟨value, found, target⟩ := join_assignment.1 joined
    have value : value.nodes ⊆ lhs.nodes ∨ ReadFrom s.next value := .inr (.here found)
    unfold assignTo? at target
    split at target
    · cases target
      simpa [Expr.children] using value
    · cases target
      simpa [Expr.children] using ⟨part (List.mem_singleton_self _), value⟩
    · rename_i object key
      cases target
      have inside : key ∈ [object, key] := List.mem_of_mem_tail (List.mem_singleton_self key)
      simpa [Expr.children] using ⟨part List.mem_cons_self, part inside, value⟩
    · cases target
  | ternary =>
    obtain ⟨yes, m, m', no, found, colon, found', rfl⟩ := join_ternary.1 joined
    obtain ⟨word, taken⟩ := takes_of_gives found
    simpa [Expr.children] using
      ⟨.inr (.here found), .inr (.behind taken (.behind colon (.here found')))⟩
  | elvis =>
    obtain ⟨rhs, found, rfl⟩ := join_elvis.1 joined
    simpa [Expr.children] using .inr (.here found)
  | call =>
    obtain ⟨span, target, method, found, rfl, given, rfl⟩ := join_call.1 joined
    refine List.forall_mem_cons.2 ⟨part (List.mem_singleton_self target), fun e listed => ?_⟩
    exact .inr (arguments_readFrom given e listed)
  | member =>
    obtain ⟨member, -, rfl⟩ := join_member.1 joined
    simp [Expr.children]
  | index =>
    obtain ⟨key, m, found, -, rfl⟩ := join_index.1 joined
    simpa [Expr.children] using .inr (.here found)

/-- An operand is an expression in parentheses, or it covers all that is taken for it and has parts
that are read behind its first token. -/
theorem operand_cases (found : (operand s).Gives e r) :
    (∃ m, s.current.token = mark .leftParen ∧ (expression .lowest s.next).Gives e m ∧
      Takes m [mark .rightParen] r) ∨
    e.span = s.current.span.extend r.last ∧ ∀ child ∈ e.children, ReadFrom s.next child := by
  rcases operand_gives.1 found with
    ⟨op, e', token, inner, rfl⟩ | ⟨function, argument, m, token, opened, given, rfl⟩ | parens |
    ⟨leaf, rfl⟩
  · exact .inr ⟨rfl, by simpa [Expr.children] using ReadFrom.here inner⟩
  · refine .inr ⟨rfl, ?_⟩
    have read := arguments_readFrom given argument (List.mem_singleton_self _)
    simpa [Expr.children] using read.behind opened
  · exact .inl parens
  · rcases literal?_eq_some_iff.1 leaf with ⟨value, -, rfl⟩ | ⟨text, -, rfl⟩
    · exact .inr ⟨(Span.extend_self _).symm, List.forall_mem_nil _⟩
    · exact .inr ⟨(Span.extend_self _).symm, List.forall_mem_nil _⟩

/-! ### What is read covers its tokens -/

/-- An expression is read between two streams: it is a phrase that what follows leaves whole, it
stands behind parentheses only, and all its nodes cover runs of tokens. -/
structure Segment (source : List Char) (tokens : List SpannedToken) (s : Stream) (e : Expr Span)
    (r : Stream) : Prop where
  start : s.rest <:+ tokens
  along : Along source tokens r
  situated : e.Situated source
  before : e.span.stop.byte ≤ r.last.stop.byte
  phrase : ∃ level word d, Takes s word r ∧ Phrase level word d ∧ d.shape = e.shape ∧
    level.EndsBefore r.current.token
  nodes : ∀ n ∈ e.nodes, n.Among tokens
  wraps : ∃ opens run closes, Wraps s opens run closes e r

/-- Every success of the expression parser at a stream is such a segment. -/
def SegmentsAt (source : List Char) (tokens : List SpannedToken) (s : Stream) : Prop :=
  Along source tokens s → ∀ p e r, (expression p s).Gives e r → Segment source tokens s e r

theorem ReadFrom.among (below : ∀ m : Stream, m.size < s.size → SegmentsAt source tokens m)
    (along : Along source tokens s) (inside : s.current.token ≠ .endOfInput)
    (h : ReadFrom s.next e) : ∀ n ∈ e.nodes, n.Among tokens := by
  obtain ⟨word, m, p, r, taken, found⟩ := h
  have taken : Takes s (s.current.token :: word) m := .cons inside taken
  exact (below m taken.size_lt (along.takes taken) p e r found).nodes

theorem among_of_children (self : e.Among tokens)
    (children : ∀ child ∈ e.children, ∀ n ∈ child.nodes, n.Among tokens) :
    ∀ n ∈ e.nodes, n.Among tokens := by
  intro n listed
  rw [Expr.nodes_eq] at listed
  rcases List.mem_cons.1 listed with rfl | listed
  · exact self
  · obtain ⟨child, part, within⟩ := Expr.mem_nodesOfAll.1 listed
    exact children child part n within

/-- What is joined to an operand leaves the parentheses in front of it outside. -/
theorem Wraps.join {opens closes more : List SpannedToken} {level : Level} {d : Expr Parens}
    (h : Wraps s₀ opens run closes lhs s) (between : Between s more r) (nonempty : more ≠ [])
    (starts : e.span.start = lhs.span.start) (stops : e.span.stop = r.last.stop)
    (phrase : Phrase level ((opens ++ run ++ closes ++ more).map SpannedToken.token) d)
    (shape : d.shape = e.shape) : Wraps s₀ opens (run ++ closes ++ more) [] e r := by
  have split : opens ++ run ++ closes ++ more = opens ++ (run ++ closes ++ more) := by simp
  refine ⟨by simpa using h.between.append between, h.opened, ⟨?_, ?_⟩, fun paired => ?_⟩
  · obtain ⟨t, first, same⟩ := h.written.covers.first
    exact ⟨t, by simp [Option.mem_def.1 first], starts.trans same⟩
  · obtain ⟨t, last, same⟩ := between.getLast nonempty
    exact ⟨t, by simp [Option.mem_def.1 last], by rw [stops, same]⟩
  · rw [split, List.map_append] at phrase
    have none := phrase.parensPaired.no_opening (List.forall_mem_map.2 h.opened) paired
    rw [none, List.nil_append] at phrase
    exact ⟨d, phrase.loosen (Nat.zero_le _), shape⟩

theorem Segment.join {inside : s.current.token ≠ .endOfInput}
    (h : Segment source tokens s₀ lhs s)
    (below : ∀ m : Stream, m.size < s.size → SegmentsAt source tokens m)
    (ahead : Connective.ofToken? s.current.token = some c)
    (joined : (join c lhs s inside).Gives e r) : Segment source tokens s₀ e r := by
  obtain ⟨level, left, d, taken, phrase, shape, ends⟩ := h.phrase
  obtain ⟨opens, run, closes, wraps⟩ := h.wraps
  obtain ⟨word, d', taken', phrase', shape', ends'⟩ :=
    join_sound (fun m _ => expression_sound m) (Connective.eq_token_of_ofToken? ahead)
      (phrase.loosen (ends c ahead)) shape joined
  have ordered := Nat.le_trans h.before h.along.laid.behind_le
  have joins := (join_places c inside (fun m _ => expression_places m) h.along.laid h.situated
    ordered).of_gives joined
  have wraps' : ∃ run', Wraps s₀ opens run' [] e r := by
    obtain ⟨all, between, rfl⟩ := taken.between
    obtain ⟨more, between', rfl⟩ := taken'.between
    obtain rfl := between.unique wraps.between
    rw [← List.map_append] at phrase'
    exact ⟨_, wraps.join between' (between'.ne_nil joined.fewer) joins.starts joins.stops phrase'
      shape'⟩
  obtain ⟨run', wraps'⟩ := wraps'
  refine ⟨h.start, h.along.takes taken', joins.situated, joins.stops ▸ Nat.le_refl _,
    ⟨_, _, d', Takes.append_iff.2 ⟨s, taken, taken'⟩, phrase', shape', ends'⟩, ?_, _, _, _, wraps'⟩
  refine among_of_children (wraps'.among h.start) fun child listed => ?_
  rcases join_children joined child listed with part | behind
  · exact fun n within => h.nodes n (part within)
  · exact behind.among below h.along inside

theorem joined_segment {s r : Stream} {lhs e : Expr Span}
    (below : ∀ m : Stream, m.size < s.size → SegmentsAt source tokens m)
    (h : Segment source tokens s₀ lhs s) (found : (joined p lhs s).Gives e r) :
    Segment source tokens s₀ e r := by
  by_cases stop : Stops p s
  · obtain ⟨rfl, rfl⟩ := (joined_stop stop).1 found
    exact h
  · obtain ⟨c, ahead, binds⟩ : ∃ c, Connective.ofToken? s.current.token = some c ∧
        c.binds p = true := by
      simpa [Stops] using stop
    obtain ⟨e', m, first, more⟩ := (joined_step ahead binds).1 found
    have fewer := first.fewer
    exact joined_segment (fun j less => below j (Nat.lt_trans less fewer)) (h.join below ahead first)
      more
termination_by s.size

theorem operand_segment (below : ∀ m : Stream, m.size < s.size → SegmentsAt source tokens m)
    (along : Along source tokens s) (found : (operand s).Gives e r) :
    Segment source tokens s e r := by
  obtain ⟨level, -, ⟨word, d, taken, phrase, shape⟩, ends⟩ :=
    operand_sound (fun m _ => expression_sound m) found
  obtain ⟨situated, passes⟩ :=
    (operand_places (fun m _ => expression_places m) along.laid).of_gives found
  have before := (passes.row.within e.span (List.mem_singleton_self _)).2
  obtain ⟨run, between, rfl⟩ := taken.between
  suffices nodes : (∀ n ∈ e.nodes, n.Among tokens) ∧ ∃ opens run closes, Wraps s opens run closes e r
    from ⟨along.suffix, along.takes taken, situated, before,
      ⟨level, _, d, taken, phrase, shape, ends⟩, nodes.1, nodes.2⟩
  rcases operand_cases found with ⟨m, token, inner, close⟩ | ⟨span, children⟩
  · have inside := current_ne_end token (by simp)
    have next := along.takes (.cons inside .nil)
    have segment := below s.next (size_next_lt inside) next .lowest e m inner
    obtain ⟨opens, run', closes, wraps⟩ := segment.wraps
    obtain ⟨closing, between', -⟩ := close.between
    refine ⟨segment.nodes, s.current :: opens, run', closes ++ closing, ?_, ?_, wraps.written⟩
    · simpa using ((Between.single inside).append wraps.between).append between'
    · exact List.forall_mem_cons.2 ⟨token, wraps.opened⟩
  · have nonempty := between.ne_nil found.fewer
    have covered := (passes.reached.cover along.laid.current.span (Nat.le_refl _)
      passes.reached.stops).1
    have covers : e.span.Covers run := by
      obtain ⟨t, last, same⟩ := between.getLast nonempty
      rw [span, covered]
      exact ⟨⟨_, between.head nonempty, rfl⟩, t, last, by rw [same]⟩
    have wraps : Wraps s [] run [] e r :=
      ⟨by simpa using between, List.forall_mem_nil _, covers,
        fun _ => ⟨d, phrase.loosen (Nat.zero_le _), shape⟩⟩
    have inside := between.inside _ (List.mem_of_mem_head? (between.head nonempty))
    refine ⟨among_of_children (wraps.among along.suffix) fun child listed => ?_, _, _, _, wraps⟩
    exact (children child listed).among below along inside

theorem expression_segment (s : Stream) : SegmentsAt source tokens s := by
  intro along p e r found
  have below : ∀ m : Stream, m.size < s.size → SegmentsAt source tokens m :=
    fun m _ => expression_segment m
  obtain ⟨lhs, m, first, more⟩ := expression_gives.1 found
  have fewer := first.fewer
  exact joined_segment (fun j less => below j (Nat.lt_trans less fewer))
    (operand_segment below along first) more
termination_by s.size

end Stream

end ExprScript
