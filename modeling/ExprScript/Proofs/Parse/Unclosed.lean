import ExprScript.Proofs.Grammar.Brackets
import ExprScript.Proofs.Parse.Continuing
import ExprScript.Proofs.Parse.Segments

/-!
# Brackets that are not closed

A parser takes brackets with those that close them, so between the streams at which it starts and
succeeds the tokens are balanced. When it stops for want of a closing bracket, it has come to the
end of the input, and the tokens from the bracket that it blames up to there are balanced as well.
The two statements are shown together, for each parser from those that it calls.
-/

namespace ExprScript

open Grammar

namespace Stream

open Parsed

variable {α β : Type} {k n : Nat} {s m r stop : Stream} {run : List SpannedToken} {e : SyntaxError}
  {opening : Punctuation} {opened : Span} {p : Parsed α k}
  {f : (value : α) → (r : Stream) → r.size < k → Parsed β n}

/-! ### Balanced tokens between streams -/

/-- The tokens between two streams are balanced. -/
def Passed (s r : Stream) : Prop :=
  ∃ run, Between s run r ∧ Balanced (run.map SpannedToken.token)

theorem Between.refl (s : Stream) : Between s [] s := ⟨rfl, rfl, List.forall_mem_nil _⟩

theorem Passed.refl (s : Stream) : Passed s s := ⟨[], .refl s, .nil⟩

theorem Passed.trans (h : Passed s m) (h' : Passed m r) : Passed s r := by
  obtain ⟨run, between, balanced⟩ := h
  obtain ⟨run', between', balanced'⟩ := h'
  exact ⟨run ++ run', between.append between', by simpa using balanced.append balanced'⟩

theorem Passed.plain {t : Token} (token : s.current.token = t) (inside : t ≠ .endOfInput)
    (plain : IsPlain t) : Passed s s.next :=
  ⟨_, Between.single (current_ne_end token inside), .single (token ▸ plain)⟩

theorem Between.mark (token : s.current.token = mark opening) : Between s [s.current] s.next :=
  .single (current_ne_end token (by simp))

/-- An opening bracket, balanced tokens and the bracket that closes are balanced. -/
theorem Passed.enclosed (token : s.current.token = mark opening) (opens : opening ∈ openings)
    (inside : Passed s.next m) (close : m.current.token = mark (closing opening)) :
    Passed s m.next := by
  obtain ⟨run, between, balanced⟩ := inside
  refine ⟨_, ((Between.mark token).append between).append (.mark close), ?_⟩
  simpa [token, close] using .nest opens balanced .nil

/-! ### What is blamed -/

/-- If an error is that of a bracket that is not closed, this bracket was taken from the stream, and
what was taken behind it, up to the end of the input, is balanced. -/
def BlamesOpen (s : Stream) (e : SyntaxError) (stop : Stream) : Prop :=
  ∀ d, e.cause = .unclosed d → d ∈ openings ∧ stop.current.token = .endOfInput ∧
    ∃ front back, Between s (front ++ ⟨mark d, e.span⟩ :: back) stop ∧
      Balanced (back.map SpannedToken.token)

/-- The error is none of a bracket that is not closed. -/
def BlamesOther (e : SyntaxError) : Prop := ∀ d, e.cause ≠ .unclosed d

theorem BlamesOther.blamesOpen (h : BlamesOther e) : BlamesOpen s e stop :=
  fun d cause => absurd cause (h d)

theorem BlamesOpen.behind (between : Between s run m) (h : BlamesOpen m e stop) :
    BlamesOpen s e stop := by
  intro d cause
  obtain ⟨opens, last, front, back, between', balanced⟩ := h d cause
  exact ⟨opens, last, run ++ front, back, by simpa using between.append between', balanced⟩

/-- A parser passes balanced tokens, or stops and blames an open bracket rightly. -/
def Tracks (s : Stream) (p : Parsed α n) : Prop :=
  p.Concludes (BlamesOpen s) fun _ r => Passed s r

/-- The bracket in front of the stream is blamed at the end of the input, and the tokens up to there
are balanced. -/
structure LeftOpen (opening : Punctuation) (opened : Span) (s : Stream) (e : SyntaxError)
    (stop : Stream) : Prop where
  blamed : e = ⟨opened, .unclosed opening⟩
  last : stop.current.token = .endOfInput
  passed : Passed s stop

/-- A parser passes balanced tokens and the bracket that closes the one in front of the stream, or
blames an open bracket rightly, that one if none in its tokens. -/
def Closes (opening : Punctuation) (opened : Span) (s : Stream) (p : Parsed α n) : Prop :=
  p.Concludes (fun e stop => BlamesOpen s e stop ∨ LeftOpen opening opened s e stop)
    fun _ r => ∃ m, Passed s m ∧ m.current.token = mark (closing opening) ∧ m.next = r

/-- A parser takes nothing more, and blames no bracket. -/
def Rests (s : Stream) (p : Parsed α n) : Prop :=
  p.Concludes (fun e _ => BlamesOther e) fun _ r => s = r

theorem Tracks.fail {cause : SyntaxCause} (other : ∀ d, cause ≠ .unclosed d) :
    Tracks s (s.fail cause : Parsed α n) :=
  fun d blamed => absurd blamed (other d)

theorem Tracks.after (passed : Passed s m) (h : Tracks m p) : Tracks s p := by
  obtain ⟨run, between, balanced⟩ := passed
  exact Concludes.imp h (fun _ _ => .behind between) fun _ _ => .trans ⟨run, between, balanced⟩

theorem Tracks.andThen (first : Tracks s p) (next : ∀ value r fewer, Tracks r (f value r fewer)) :
    Tracks s (p.andThen f) :=
  Concludes.andThen first (fun _ _ blamed => blamed) fun value r fewer passed =>
    (next value r fewer).after passed

theorem Tracks.widen (h : Tracks s p) (more : k ≤ n) : Tracks s (p.widen more) :=
  Concludes.widen h more

theorem Closes.after (passed : Passed s m) (h : Closes opening opened m p) :
    Closes opening opened s p := by
  obtain ⟨run, between, balanced⟩ := passed
  have passed : Passed s m := ⟨run, between, balanced⟩
  refine Concludes.imp h (fun e stop blamed => ?_) fun value r closed => ?_
  · rcases blamed with blamed | ⟨blamed, last, inside⟩
    · exact .inl (blamed.behind between)
    · exact .inr ⟨blamed, last, passed.trans inside⟩
  · obtain ⟨m', inside, close⟩ := closed
    exact ⟨m', passed.trans inside, close⟩

theorem Tracks.closes_andThen (first : Tracks s p)
    (next : ∀ value r fewer, Closes opening opened r (f value r fewer)) :
    Closes opening opened s (p.andThen f) :=
  Concludes.andThen first (fun _ _ => .inl) fun value r fewer passed =>
    (next value r fewer).after passed

theorem Closes.andThen (first : Closes opening opened s p)
    (next : ∀ value r fewer, Rests r (f value r fewer)) :
    Closes opening opened s (p.andThen f) := by
  refine Concludes.andThen first (fun _ _ blamed => blamed) fun value r fewer closed => ?_
  refine (next value r fewer).imp (fun _ _ other => .inl other.blamesOpen) fun _ r' same => ?_
  rwa [← same]

/-- A bracket and what closes it are balanced; if nothing does, the bracket is blamed rightly. -/
theorem Closes.enclose (token : s.current.token = mark opening) (opens : opening ∈ openings)
    (h : Closes opening s.current.span s.next p) : Tracks s p := by
  have taken := Between.mark token
  refine Concludes.imp h (fun e stop blamed => ?_) fun _ r closed => ?_
  · rcases blamed with blamed | ⟨rfl, last, run, between, balanced⟩
    · exact blamed.behind taken
    · -- the bracket ahead is the one to blame, and all behind it is balanced
      rintro d ⟨⟩
      have bracket : s.current = ⟨mark opening, s.current.span⟩ := by rw [← token]
      exact ⟨opens, last, [], run, bracket ▸ taken.append between, balanced⟩
  · obtain ⟨m, inside, close, rfl⟩ := closed
    exact inside.enclosed token opens close

/-! ### Single tokens -/

theorem close_closes (opening : Punctuation) (after : Construct) (opened : Span) :
    Closes opening opened s (s.close opening after opened) := by
  unfold close
  split
  · rename_i last
    exact .inr ⟨rfl, last, .refl s⟩
  · unfold expect
    split
    · rename_i close
      exact ⟨s, .refl s, close, rfl⟩
    · exact .inl (BlamesOther.blamesOpen (by simp [BlamesOther]))

theorem expect_tracks {after : Construct} (plain : IsPlain (mark opening)) :
    Tracks s (s.expect opening after) := by
  unfold expect
  split
  · rename_i token
    exact .plain token (by simp) plain
  · exact .fail (by simp)

/-- A bracket that has to be there, and what closes it. -/
theorem expect_encloses {after : Construct} {f : Unit → (r : Stream) → r.size < s.size → Parsed β n}
    (opens : opening ∈ openings)
    (inside : ∀ fewer, Closes opening s.current.span s.next (f () s.next fewer)) :
    Tracks s ((s.expect opening after).andThen f) := by
  unfold expect
  split
  · rename_i token
    exact (inside _).enclose token opens
  · exact .fail (by simp)

theorem memberName_tracks : Tracks s s.memberName := by
  unfold memberName
  split
  · rename_i token
    exact .plain token (by simp) (by simp [IsPlain])
  · rename_i token
    exact .plain token (by simp) (by simp [IsPlain])
  · exact .fail (by simp)

/-- Only a call and an index are read behind a bracket. -/
theorem isPlain_of_ofToken? {t : Token} {c : Connective} (ahead : Connective.ofToken? t = some c)
    (call : c ≠ .call) (index : c ≠ .index) : IsPlain t := by
  obtain rfl := Connective.eq_token_of_ofToken? ahead
  cases c with
  | call => exact absurd rfl call
  | index => exact absurd rfl index
  | _ => simp [IsPlain, Connective.token, openings, closings]

/-! ### Expressions -/

/-- From a stream expressions are read that pass balanced tokens or blame an open bracket. -/
def TracksAt (s : Stream) : Prop := ∀ context, Tracks s (expression context s)

theorem moreArguments_closes (s : Stream) (opened : Span)
    (below : ∀ m : Stream, m.size < s.size → TracksAt m) :
    Closes .leftParen opened s (moreArguments opened s) := by
  rw [moreArguments]
  split
  · rename_i close
    exact ⟨s, .refl s, close, rfl⟩
  · split
    · rename_i last
      exact .inr ⟨rfl, last, .refl s⟩
    · split
      · rename_i comma
        have passed := size_next_lt_of_mark comma
        refine .after (.plain comma (by simp) (by decide)) ?_
        refine (below _ passed .lowest).closes_andThen fun argument r shorter => ?_
        have more := moreArguments_closes r opened fun m fewer => below m (by omega)
        exact more.andThen fun _ _ _ => rfl
      · exact .inl (BlamesOther.blamesOpen (by simp [BlamesOther]))
termination_by s.size

theorem countedArguments_rests {arguments : List (Expr Span)} {fewer : s.size < n} :
    Rests s (countedArguments arguments s fewer) := by
  unfold countedArguments
  split
  · exact fun d => by simp
  · exact rfl

theorem arguments_closes (opened : Span) (upto : ∀ m : Stream, m.size ≤ s.size → TracksAt m) :
    Closes .leftParen opened s (arguments opened s) := by
  rw [arguments]
  split
  · rename_i close
    exact ⟨s, .refl s, close, rfl⟩
  · refine (upto s (Nat.le_refl _) .lowest).closes_andThen fun first r shorter => ?_
    have more := moreArguments_closes r opened fun m fewer => upto m (by omega)
    exact more.andThen fun _ _ _ => countedArguments_rests

theorem unary_tracks (op : UnaryOp) (inside : s.current.token ≠ .endOfInput)
    (plain : IsPlain s.current.token) (below : ∀ m : Stream, m.size < s.size → TracksAt m) :
    Tracks s (unary op s inside) := by
  rw [unary]
  refine .after (.plain rfl inside plain) ?_
  exact (below _ (size_next_lt inside) .unary).andThen fun _ r _ => .refl r

theorem builtinCall_tracks (function : Builtin) (inside : s.current.token ≠ .endOfInput)
    (plain : IsPlain s.current.token) (below : ∀ m : Stream, m.size < s.size → TracksAt m) :
    Tracks s (builtinCall function s inside) := by
  rw [builtinCall]
  have passed := size_next_lt inside
  refine .after (.plain rfl inside plain) (expect_encloses (by decide) fun shorter => ?_)
  have given := arguments_closes (s := s.next.next) s.next.current.span fun m most =>
    below m (by omega)
  refine given.andThen fun found r _ => ?_
  split
  · exact rfl
  · exact fun d => by simp

theorem join_tracks {c : Connective} (lhs : Expr Span)
    (ahead : Connective.ofToken? s.current.token = some c)
    (below : ∀ m : Stream, m.size < s.size → TracksAt m) :
    Tracks s (join c lhs s (ne_end_of_ofToken? ahead)) := by
  have inside := ne_end_of_ofToken? ahead
  have fewer := size_next_lt inside
  have plain (call : c ≠ .call) (index : c ≠ .index) : Passed s s.next :=
    .plain rfl inside (isPlain_of_ofToken? ahead call index)
  have token := Connective.eq_token_of_ofToken? ahead
  cases c with
  | binary | logical | elvis =>
    rw [join]
    exact .after (plain (by simp) (by simp)) ((below _ fewer _).andThen fun _ r _ => .refl r)
  | assignment =>
    rw [join]
    refine .after (plain (by simp) (by simp)) ((below _ fewer _).andThen fun value r _ => ?_)
    split
    · exact .refl r
    · exact BlamesOther.blamesOpen (by simp [BlamesOther])
  | ternary =>
    rw [join]
    refine .after (plain (by simp) (by simp)) ((below _ fewer _).andThen fun yes r shorter => ?_)
    refine (expect_tracks (by decide)).andThen fun _ r' shorter' => ?_
    exact (below r' (by omega) _).andThen fun _ r _ => .refl r
  | call =>
    rw [join]
    have given := arguments_closes (s := s.next) s.current.span fun m most => below m (by omega)
    refine Closes.enclose token (by decide) (given.andThen fun found r _ => ?_)
    split
    · exact rfl
    · exact fun d => by simp
  | member =>
    rw [join]
    exact .after (plain (by simp) (by simp)) (memberName_tracks.andThen fun _ r _ => .refl r)
  | index =>
    rw [join]
    refine Closes.enclose token (by decide) ?_
    refine (below _ fewer .lowest).closes_andThen fun key r _ => ?_
    exact (close_closes _ _ _).andThen fun _ _ _ => rfl

theorem joined_tracks (s : Stream) (lhs : Expr Span) (context : Precedence)
    (below : ∀ m : Stream, m.size < s.size → TracksAt m) :
    Tracks s (joined context lhs s) := by
  rw [joined]
  split
  · exact .refl s
  · rename_i c ahead
    split
    · refine (join_tracks lhs ahead below).andThen fun lhs' r shorter => ?_
      exact (joined_tracks r lhs' context fun m fewer => below m (by omega)).widen _
    · exact .refl s
termination_by s.size

theorem operand_tracks (below : ∀ m : Stream, m.size < s.size → TracksAt m) :
    Tracks s (operand s) := by
  by_cases opens : s.current.token.opensExpression
  · rcases opensExpression_cases opens with ⟨op, token⟩ | ⟨function, token⟩ | token | ⟨e, leaf⟩
    · have plain : IsPlain s.current.token := token ▸ by simp [IsPlain]
      rw [operand_eq_unary op (current_ne_end token (by simp)) token]
      exact unary_tracks _ _ plain below
    · have plain : IsPlain s.current.token := token ▸ by simp [IsPlain]
      rw [operand_eq_builtinCall function (current_ne_end token (by simp)) token]
      exact builtinCall_tracks _ _ plain below
    · have fewer := size_next_lt_of_mark token
      rw [operand_eq_parens fewer token]
      refine Closes.enclose token (by decide) ?_
      refine (below _ fewer .lowest).closes_andThen fun e r _ => ?_
      exact (close_closes _ _ _).andThen fun _ _ _ => rfl
    · obtain ⟨_, same⟩ := (operand_leaf leaf).2 ⟨rfl, rfl⟩
      rw [same]
      refine .plain rfl (ne_end_of_literal? leaf) ?_
      rcases literal?_eq_some_iff.1 leaf with ⟨value, token, -⟩ | ⟨text, token, -⟩
      · exact fun m _ => token ▸ value.token_ne_punctuation m
      · simp [IsPlain, token]
  · rw [operand_eq_fail (by simpa using opens)]
    exact .fail (by simp)

theorem expression_tracks (s : Stream) : TracksAt s := by
  intro context
  have below : ∀ m : Stream, m.size < s.size → TracksAt m := fun m _ => expression_tracks m
  rw [expression]
  refine (operand_tracks below).andThen fun lhs r shorter => ?_
  exact (joined_tracks r lhs context fun m fewer => below m (by omega)).widen _
termination_by s.size

/-! ### Statements -/

theorem condition_tracks (keyword : Construct) : Tracks s (condition keyword s) := by
  unfold condition
  refine expect_encloses (by decide) fun _ => ?_
  refine (expression_tracks s.next .lowest).closes_andThen fun e r _ => ?_
  exact (close_closes _ _ _).andThen fun _ _ _ => rfl

theorem expressionStatement_tracks : Tracks s (expressionStatement s) := by
  unfold expressionStatement
  refine (expression_tracks s .lowest).andThen fun e r _ => ?_
  split
  · rename_i semicolon
    exact .plain semicolon (by simp) (by decide)
  · split
    · exact .refl r
    · exact .fail (by simp)

theorem conditional_tracks (inside : s.current.token ≠ .endOfInput)
    (plain : IsPlain s.current.token)
    (below : ∀ m : Stream, m.size < s.size → Tracks m (statement m)) :
    Tracks s (conditional s inside) := by
  rw [conditional]
  have fewer := size_next_lt inside
  refine .after (.plain rfl inside plain) ?_
  refine (condition_tracks .ifWord).andThen fun test m shorter => ?_
  refine (below m (by omega)).andThen fun yes m' shorter' => ?_
  split
  · rename_i other
    have fewer' := size_next_lt (current_ne_end other (by simp))
    refine .after (.plain other (by simp) (by decide)) ?_
    exact (below m'.next (by omega)).andThen fun _ r _ => .refl r
  · exact .refl m'

theorem loop_tracks (inside : s.current.token ≠ .endOfInput) (plain : IsPlain s.current.token)
    (below : ∀ m : Stream, m.size < s.size → Tracks m (statement m)) :
    Tracks s (loop s inside) := by
  rw [loop]
  have fewer := size_next_lt inside
  refine .after (.plain rfl inside plain) ?_
  refine (condition_tracks .whileWord).andThen fun test m shorter => ?_
  exact (below m (by omega)).andThen fun _ r _ => .refl r

theorem block_closes (s : Stream) (opened : Span)
    (upto : ∀ m : Stream, m.size ≤ s.size → Tracks m (statement m)) :
    Closes .leftBrace opened s (block opened s) := by
  rw [block]
  split
  · exact (close_closes _ _ _).andThen fun _ _ _ => rfl
  · refine (upto s (Nat.le_refl _)).closes_andThen fun first r shorter => ?_
    have more := block_closes r opened fun m fewer => upto m (by omega)
    exact more.andThen fun _ _ _ => rfl
termination_by s.size

theorem statement_tracks (s : Stream) : Tracks s (statement s) := by
  have below : ∀ m : Stream, m.size < s.size → Tracks m (statement m) :=
    fun m _ => statement_tracks m
  rw [statement]
  split
  · rename_i semicolon
    exact .plain semicolon (by simp) (by decide)
  · rename_i token
    exact conditional_tracks _ (token ▸ by decide) below
  · rename_i token
    exact loop_tracks _ (token ▸ by decide) below
  · rename_i token
    have fewer := size_next_lt_of_mark token
    refine Closes.enclose token (by decide) ?_
    exact (block_closes s.next _ fun m most => below m (by omega)).andThen fun _ _ _ => rfl
  · exact expressionStatement_tracks
termination_by s.size

theorem script_tracks (s : Stream) : Tracks s (script s) := by
  rw [script]
  split
  · exact .refl s
  · refine (statement_tracks s).andThen fun first r shorter => ?_
    exact (script_tracks r).andThen fun _ r _ => .refl r
termination_by s.size

theorem skipSemicolon_passed : Passed s s.skipSemicolon := by
  unfold skipSemicolon
  split
  · rename_i semicolon
    exact .plain semicolon (by simp) (by decide)
  · exact .refl s

theorem unit_tracks (s : Stream) (mode : Mode) : Tracks s (s.unit mode) := by
  cases mode with
  | expression =>
    rw [unit]
    refine (expression_tracks s .lowest).andThen fun e r _ => .after skipSemicolon_passed ?_
    split
    · exact .refl _
    · exact .fail (by simp)
  | script =>
    rw [unit]
    exact (script_tracks s).andThen fun _ r _ => .refl r

/-- The tokens between a stream and one at its end are those in front of the end token. -/
theorem Between.ends (h : Between s run stop) (last : stop.current.token = .endOfInput) :
    s.rest.takeWhile (·.token ≠ .endOfInput) = run ∧
      s.rest.dropWhile (·.token ≠ .endOfInput) = stop.rest := by
  have inside : ∀ t ∈ run, decide (t.token ≠ .endOfInput) = true := by simpa using h.inside
  have nothing : stop.rest.takeWhile (·.token ≠ .endOfInput) = [] := inside_of_end last
  have ahead : stop.rest.dropWhile (·.token ≠ .endOfInput) = stop.rest := by
    have all := List.takeWhile_append_dropWhile (p := (·.token ≠ .endOfInput)) (l := stop.rest)
    rwa [nothing] at all
  rw [h.rest, List.takeWhile_append_of_pos inside, List.dropWhile_append_of_pos inside, nothing,
    ahead]
  exact ⟨List.append_nil run, rfl⟩

end Stream

/-! ### Which bracket is blamed -/

/-- A token that opens what the tokens behind it do not close. -/
def SpannedToken.OpenBefore (t : SpannedToken) (behind : List SpannedToken) : Prop :=
  ∃ opening ∈ openings, t.token = mark opening ∧
    ¬ ClosedBy opening (behind.map SpannedToken.token)

/-- The last of some tokens that opens what is not closed behind it. -/
def LastOpen (tokens : List SpannedToken) (t : SpannedToken) : Prop :=
  ∃ front back, tokens = front ++ t :: back ∧ t.OpenBefore back ∧
    ∀ between t' behind, back = between ++ t' :: behind → ¬ t'.OpenBefore behind

/-- When a bracket is blamed for not being closed, the parser has taken every token in front of the
end, and the bracket is the last of them that opens and has none behind it that closes it. -/
theorem unclosed_blames_last_open {tokens : List SpannedToken} {mode : Mode} {span : Span}
    {opening : Punctuation} (h : parse tokens mode = .error ⟨span, .unclosed opening⟩) :
    (∃ stop, (Stream.ofTokens tokens).unit mode = .failed ⟨span, .unclosed opening⟩ stop ∧
      stop.rest = tokens.dropWhile (·.token ≠ .endOfInput)) ∧
    LastOpen (tokens.takeWhile (·.token ≠ .endOfInput)) ⟨mark opening, span⟩ := by
  obtain ⟨stop, failed⟩ := parse_eq_error_iff.1 h
  have tracks := Stream.unit_tracks (Stream.ofTokens tokens) mode
  rw [failed] at tracks
  obtain ⟨opens, last, front, back, between, balanced⟩ := tracks opening rfl
  obtain ⟨taken, left⟩ := between.ends last
  refine ⟨⟨stop, failed, left.symm⟩, front, back, taken, ?_, ?_⟩
  · exact ⟨opening, opens, rfl, balanced.not_closedBy opening⟩
  · rintro ahead t behind rfl ⟨opening', opens', token, unclosed⟩
    have split : (ahead ++ t :: behind).map SpannedToken.token =
        ahead.map SpannedToken.token ++ mark opening' :: behind.map SpannedToken.token := by
      rw [List.map_append, List.map_cons, token]
    exact unclosed (balanced.closedBy opens' split)

/-- In `a[(b)` the parentheses are closed, so the bracket in front of them is blamed. -/
theorem unclosed_blames_bracket_of_index : ∃ tokens span,
    tokens.map SpannedToken.token =
      [.identifier "a", mark .leftBracket, mark .leftParen, .identifier "b", mark .rightParen] ∧
    parse tokens .expression = .error ⟨span, .unclosed .leftBracket⟩ ∧
    (∃ stop, (Stream.ofTokens tokens).unit .expression =
        .failed ⟨span, .unclosed .leftBracket⟩ stop ∧
      stop.rest = tokens.dropWhile (·.token ≠ .endOfInput)) ∧
    LastOpen (tokens.takeWhile (·.token ≠ .endOfInput)) ⟨mark .leftBracket, span⟩ := by
  let tokens : List SpannedToken :=
    [⟨.identifier "a", ⟨⟨0, 1, 1⟩, ⟨1, 1, 2⟩⟩⟩, ⟨mark .leftBracket, ⟨⟨1, 1, 2⟩, ⟨2, 1, 3⟩⟩⟩,
      ⟨mark .leftParen, ⟨⟨2, 1, 3⟩, ⟨3, 1, 4⟩⟩⟩, ⟨.identifier "b", ⟨⟨3, 1, 4⟩, ⟨4, 1, 5⟩⟩⟩,
      ⟨mark .rightParen, ⟨⟨4, 1, 5⟩, ⟨5, 1, 6⟩⟩⟩]
  have fails : parse tokens .expression = .error ⟨⟨⟨1, 1, 2⟩, ⟨2, 1, 3⟩⟩, .unclosed .leftBracket⟩ :=
    parse_eq_error_of_map (by decide +kernel)
  exact ⟨tokens, _, rfl, fails, unclosed_blames_last_open fails⟩

end ExprScript
