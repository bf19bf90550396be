import Mathlib.Data.List.TakeWhile
import ExprScript.Proofs.Parse.Branches
import ExprScript.Proofs.Parse.Continuing
import ExprScript.Proofs.Parse.Unclosed

/-!
# Errors that no further token repairs

A parser looks at one token ahead and never back. So if it stops at a token, it stops there whatever
follows, and if it stops with a success in front of a token, it does so as well when more follow. It
is only at the end of the input that more tokens can change what it does: there it succeeds without
having seen what follows, or stops for want of a token.
-/

namespace ExprScript

open Grammar

/-- The error blames neither the end of the input nor a bracket that is open there. -/
structure SyntaxError.Final (e : SyntaxError) : Prop where
  closed : Stream.BlamesOther e
  found : e.cause.found? ≠ some .endOfInput

namespace Stream

open Parsed

/-- The stream with more tokens in the place of the end of the input. -/
def followedBy (more : List SpannedToken) (s : Stream) : Stream := ⟨s.inside ++ more, s.last⟩

/-- Some token is ahead. -/
def HasAhead (s : Stream) : Prop := s.current.token ≠ .endOfInput

/-- Any stream, with a token ahead or without. -/
def Anyway (_ : Stream) : Prop := True

variable {α β : Type} {k k' n n' : Nat} {more : List SpannedToken} {s r r' : Stream}
  {settled settled' : Stream → Prop} {e : SyntaxError} {opened opened' : Span} {value value' : α}
  {context : Precedence} {lhs : Expr Span} {c : Connective}
  {p : Parsed α k} {p' : Parsed α k'}
  {f : (value : α) → (r : Stream) → r.size < k → Parsed β n}
  {f' : (value : α) → (r : Stream) → r.size < k' → Parsed β n'}

@[simp] theorem followedBy_last : (s.followedBy more).last = s.last := rfl

theorem followedBy_current (ahead : s.HasAhead) : (s.followedBy more).current = s.current := by
  simp [followedBy, inside_of_current ahead, current]

theorem followedBy_next (ahead : s.HasAhead) :
    (s.followedBy more).next = s.next.followedBy more := by
  have same : (s.followedBy more).current = s.current := followedBy_current ahead
  simp only [next, same]
  simp only [followedBy, inside_of_current ahead]
  rfl

theorem followedBy_token {t : Token} (token : s.current.token = t) (inside : t ≠ .endOfInput) :
    (s.followedBy more).current.token = t := by
  rw [followedBy_current (current_ne_end token inside), token]

theorem followedBy_ne {t : Token} (ahead : s.HasAhead) (other : s.current.token ≠ t) :
    (s.followedBy more).current.token ≠ t := by
  rwa [followedBy_current ahead]

/-! ### What more tokens leave as it is -/

/-- A parser stops; unless the error `e` is that of an assignment, it stops with this error. -/
def Rejects (e : SyntaxError) (p : Parsed α n) : Prop :=
  p.Concludes (fun e' _ => e.cause ≠ .invalidTarget → e' = e) fun _ _ => False

/-- What a parser does on a stream it does on the one with more tokens: an error that is final
stays, and so does a success at a rest that is settled. -/
def Persists (more : List SpannedToken) (settled : Stream → Prop) (p : Parsed α n)
    (p' : Parsed α n') : Prop :=
  p.Concludes (fun e _ => e.Final → Rejects e p') fun value r =>
    settled r → p'.Gives value (r.followedBy more)

/-- A parser stops with no final error, or succeeds at a rest that is not settled. -/
def Lapses (settled : Stream → Prop) (p : Parsed α n) : Prop :=
  p.Concludes (fun e _ => ¬ e.Final) fun _ r => ¬ settled r

/-- The error of an assignment need not stay, any other will do. -/
theorem rejects_andThen (target : e.cause = .invalidTarget)
    (stops : ∀ value r fewer, Rejects e (f value r fewer)) : Rejects e (p.andThen f) := by
  cases p with
  | done value r fewer => exact stops value r fewer
  | failed e' stop => exact fun other => absurd target other

theorem Rejects.andThen (h : Rejects e p) : Rejects e (p.andThen f) :=
  Concludes.andThen h (fun _ _ same => same) fun _ _ _ never => never.elim

theorem Lapses.persists (h : Lapses settled p) : Persists more settled p p' :=
  h.imp (fun _ _ open? final => absurd final open?) fun _ _ unsettled settled =>
    absurd settled unsettled

theorem Lapses.andThen (h : Lapses Anyway p) : Lapses settled (p.andThen f) :=
  Concludes.andThen h (fun _ _ open? => open?) fun _ _ _ never => absurd trivial never

theorem Lapses.widen (h : Lapses settled p) (least : k ≤ n) : Lapses settled (p.widen least) :=
  Concludes.widen h least

/-- Stopping at the end of the input is not final. -/
theorem lapses_fail {cause : SyntaxCause} (last : ¬ s.HasAhead)
    (found : cause.found? = some s.current.token) :
    Lapses settled (s.fail cause : Parsed α n) := by
  intro final
  exact final.found (found.trans (congrArg some (not_not.1 last)))

theorem Persists.done {fewer : r.size < k} {fewer' : r'.size < k'} (same : value' = value)
    (rest : r' = r.followedBy more) :
    Persists more settled (.done value r fewer) (.done value' r' fewer') := by
  subst same rest
  exact fun _ => ⟨fewer', rfl⟩

theorem Persists.failed {e' : SyntaxError} (same : e' = e) :
    Persists more settled (.failed e r : Parsed α n) (.failed e' r' : Parsed α n') :=
  fun _ _ => same

theorem Persists.of_gives (h : p.Gives value r) (h' : p'.Gives value (r.followedBy more)) :
    Persists more settled p p' := by
  obtain ⟨_, rfl⟩ := h
  exact fun _ => h'

/-- Stopping at a token is final. -/
theorem Persists.fail {cause cause' : SyntaxCause} (ahead : s.HasAhead) (same : cause' = cause) :
    Persists more settled (s.fail cause : Parsed α n)
      ((s.followedBy more).fail cause' : Parsed α n') :=
  .failed (by rw [followedBy_current ahead, same])

theorem Persists.anywhere (h : Persists more Anyway p p') : Persists more settled p p' :=
  h.imp (fun _ _ stops => stops) fun _ _ gives _ => gives trivial

theorem Persists.widen {least : k ≤ n} {least' : k' ≤ n'} (h : Persists more settled p p') :
    Persists more settled (p.widen least) (p'.widen least') := by
  cases p with
  | done value r fewer => exact fun settled => gives_widen.2 (h settled)
  | failed e stop => exact fun final => Concludes.widen (h final) least'

/-- Where the first parser leaves a settled rest, the second goes on with the same. Elsewhere what
the second does must not count. -/
theorem Persists.andThen (first : Persists more settled p p')
    (next : ∀ value r fewer fewer', settled r →
      Persists more settled' (f value r fewer) (f' value (r.followedBy more) fewer'))
    (last : ∀ value r fewer, ¬ settled r → Lapses settled' (f value r fewer)) :
    Persists more settled' (p.andThen f) (p'.andThen f') := by
  cases p with
  | failed e stop => exact fun final => (first final).andThen
  | done value r fewer =>
    by_cases h : settled r
    · obtain ⟨fewer', rfl⟩ := first h
      exact next value r fewer fewer' h
    · -- nothing is known of the second parser here
      exact (last value r fewer h).persists

/-- If every rest is settled, the second parser always goes on with the same. -/
theorem Persists.andThen_anyway (first : Persists more Anyway p p')
    (next : ∀ value r fewer fewer',
      Persists more settled (f value r fewer) (f' value (r.followedBy more) fewer')) :
    Persists more settled (p.andThen f) (p'.andThen f') :=
  first.andThen (fun value r fewer fewer' _ => next value r fewer fewer')
    fun _ _ _ never => absurd trivial never

/-! ### Single tokens -/

theorem expect_lapses {m : Punctuation} {after : Construct} (last : ¬ s.HasAhead) :
    Lapses settled (s.expect m after) := by
  unfold expect
  rw [dif_neg (by simp [not_not.1 last])]
  exact lapses_fail last rfl

theorem expect_persists {m : Punctuation} {after : Construct} :
    Persists more Anyway (s.expect m after) ((s.followedBy more).expect m after) := by
  by_cases ahead : s.HasAhead
  · have same : (s.followedBy more).current = s.current := followedBy_current ahead
    unfold expect
    by_cases token : s.current.token = mark m
    · rw [dif_pos token, dif_pos (followedBy_token token (by simp))]
      exact .done rfl (followedBy_next ahead)
    · rw [dif_neg token, dif_neg (followedBy_ne ahead token)]
      exact .fail ahead (by rw [same])
  · exact (expect_lapses ahead).persists

theorem close_lapses {opening : Punctuation} {after : Construct} (last : ¬ s.HasAhead) :
    Lapses settled (s.close opening after opened) := by
  unfold close
  rw [if_pos (not_not.1 last)]
  exact fun final => final.closed _ rfl

theorem close_persists {opening : Punctuation} {after : Construct} :
    Persists more Anyway (s.close opening after opened)
      ((s.followedBy more).close opening after opened') := by
  by_cases ahead : s.HasAhead
  · have same : (s.followedBy more).current = s.current := followedBy_current ahead
    unfold close
    rw [if_neg ahead, if_neg (followedBy_ne ahead ahead)]
    exact expect_persists
  · exact (close_lapses ahead).persists

theorem memberName_persists :
    Persists more Anyway s.memberName (s.followedBy more).memberName := by
  by_cases ahead : s.HasAhead
  · have same : (s.followedBy more).current = s.current := followedBy_current ahead
    cases named : s.current.token.memberText? with
    | none =>
      rw [memberName_eq_fail named, memberName_eq_fail (same ▸ named)]
      exact .fail ahead (by rw [same])
    | some text =>
      have gives : s.memberName.Gives ⟨text, s.current.span⟩ s.next :=
        memberName_gives.2 ⟨.cons ahead .nil, named, rfl⟩
      refine .of_gives gives (memberName_gives.2 ?_)
      rw [same, ← followedBy_next ahead]
      exact ⟨same ▸ .cons (same ▸ ahead) .nil, named, rfl⟩
  · rw [memberName_eq_fail (by simp [not_not.1 ahead, Token.memberText?])]
    exact (lapses_fail ahead rfl).persists

/-! ### Expressions -/

/-- What an expression does on a stream it does on the one with more tokens. -/
def PersistsAt (more : List SpannedToken) (s : Stream) : Prop :=
  ∀ context,
    Persists more HasAhead (expression context s) (expression context (s.followedBy more))

theorem operand_lapses (last : ¬ s.HasAhead) : Lapses settled (operand s) := by
  rw [operand_eq_fail (by simp [not_not.1 last])]
  exact lapses_fail last rfl

theorem expression_lapses (last : ¬ s.HasAhead) :
    Lapses settled (expression context s) := by
  rw [expression]
  exact (operand_lapses last).andThen

theorem moreArguments_lapses (last : ¬ s.HasAhead) : Lapses settled (moreArguments opened s) := by
  rw [moreArguments, dif_neg (by simp [not_not.1 last]), if_pos (not_not.1 last)]
  exact fun final => final.closed _ rfl

theorem joined_lapses (last : ¬ s.HasAhead) : Lapses HasAhead (joined context lhs s) := by
  rw [joined_eq_done fun c ahead => absurd (ne_end_of_ofToken? ahead) last]
  exact last

theorem moreArguments_persists (s : Stream)
    (below : ∀ m : Stream, m.size < s.size → PersistsAt more m) :
    Persists more Anyway (moreArguments opened s) (moreArguments opened' (s.followedBy more)) := by
  by_cases ahead : s.HasAhead
  · have next : (s.followedBy more).next = s.next.followedBy more := followedBy_next ahead
    rw [moreArguments, moreArguments]
    by_cases close : s.current.token = mark .rightParen
    · rw [dif_pos close, dif_pos (followedBy_token close (by simp))]
      exact .done rfl next
    rw [dif_neg close, dif_neg (followedBy_ne ahead close), if_neg ahead,
      if_neg (followedBy_ne ahead ahead)]
    by_cases comma : s.current.token = mark .comma
    · rw [dif_pos comma, dif_pos (followedBy_token comma (by simp))]
      have fewer := size_next_lt_of_mark comma
      have first := below s.next fewer .lowest
      rw [← next] at first
      refine first.andThen (fun argument r shorter _ _ => ?_) fun argument r _ last => ?_
      · refine .andThen_anyway (moreArguments_persists r fun m less => below m ?_) fun _ _ _ _ => ?_
        · omega
        · exact .done rfl rfl
      · exact (moreArguments_lapses last).andThen
    · rw [dif_neg comma, dif_neg (followedBy_ne ahead comma)]
      exact .fail ahead (by rw [followedBy_current ahead])
  · exact (moreArguments_lapses ahead).persists
termination_by s.size

theorem countedArguments_persists {found : List (Expr Span)} {fewer : r.size < k}
    {fewer' : (r.followedBy more).size < k'} :
    Persists more settled (countedArguments found r fewer)
      (countedArguments found (r.followedBy more) fewer') := by
  unfold countedArguments
  cases found[maxArguments]? with
  | none => exact .done rfl rfl
  | some extra => exact .failed rfl

theorem arguments_persists (upto : ∀ m : Stream, m.size ≤ s.size → PersistsAt more m) :
    Persists more Anyway (arguments opened s) (arguments opened' (s.followedBy more)) := by
  rw [arguments, arguments]
  by_cases close : s.current.token = mark .rightParen
  · rw [dif_pos close, dif_pos (followedBy_token close (by simp))]
    exact .done rfl (followedBy_next (current_ne_end close (by simp)))
  rw [dif_neg close]
  by_cases ahead : s.HasAhead
  · rw [dif_neg (followedBy_ne ahead close)]
    refine (upto s (Nat.le_refl _) .lowest).andThen (fun first r shorter _ _ => ?_)
      fun first r _ last => ?_
    · refine .andThen_anyway (moreArguments_persists r fun m less => upto m ?_) fun _ _ _ _ => ?_
      · omega
      · exact countedArguments_persists
    · exact (moreArguments_lapses last).andThen
  · exact ((expression_lapses ahead).andThen).persists

variable {h : s.current.token ≠ .endOfInput} {h' : (s.followedBy more).current.token ≠ .endOfInput}

theorem unary_persists {op : UnaryOp}
    (below : ∀ m : Stream, m.size < s.size → PersistsAt more m) :
    Persists more HasAhead (unary op s h) (unary op (s.followedBy more) h') := by
  rw [unary, unary]
  have operand := below s.next (size_next_lt h) .unary
  rw [← followedBy_next h] at operand
  refine operand.andThen (fun e r _ _ _ => .done ?_ rfl) fun e r _ last => last
  rw [followedBy_current h]
  rfl

theorem builtinCall_persists {function : Builtin}
    (below : ∀ m : Stream, m.size < s.size → PersistsAt more m) :
    Persists more Anyway (builtinCall function s h)
      (builtinCall function (s.followedBy more) h') := by
  rw [builtinCall, builtinCall]
  have fewer := size_next_lt h
  have opens : Persists more Anyway (s.next.expect .leftParen .functionName)
      ((s.followedBy more).next.expect .leftParen .functionName) := by
    rw [followedBy_next h]
    exact expect_persists
  refine opens.andThen_anyway fun _ r shorter _ => ?_
  refine .andThen_anyway (arguments_persists fun m most => below m ?_) fun found r' _ _ => ?_
  · omega
  have span : (s.followedBy more).current.span = s.current.span := by rw [followedBy_current h]
  split
  · exact .done (by rw [span]; rfl) rfl
  · exact .failed (by rw [span]; rfl)

/-- Whether something can be assigned to does not depend on what is assigned. -/
theorem assignTo?_isSome (span span' : Span) (value value' lhs : Expr Span) :
    (assignTo? span value lhs).isSome = (assignTo? span' value' lhs).isSome := by
  cases lhs <;> rfl

/-- An assignment to what cannot be assigned to is rejected only behind the value. If more tokens
follow, the value may be a longer one, or none. -/
theorem assignment_persists {sign : Span} (passed : k ≤ n) (passed' : k' ≤ n')
    {p : Parsed (Expr Span) k} {p' : Parsed (Expr Span) k'} (first : Persists more HasAhead p p') :
    Persists more HasAhead
      (p.andThen fun value r fewer =>
        match assignTo? (lhs.span.extend r.last) value lhs with
        | some e => (.done e r (Nat.lt_of_lt_of_le fewer passed) : Parsed (Expr Span) n)
        | none => .failed ⟨sign, .invalidTarget⟩ r)
      (p'.andThen fun value r fewer =>
        match assignTo? (lhs.span.extend r.last) value lhs with
        | some e => (.done e r (Nat.lt_of_lt_of_le fewer passed') : Parsed (Expr Span) n')
        | none => .failed ⟨sign, .invalidTarget⟩ r) := by
  by_cases target : (assignTo? lhs.span lhs lhs).isSome
  · have assigned (span : Span) (value : Expr Span) : ∃ e, assignTo? span value lhs = some e :=
      Option.isSome_iff_exists.1 ((assignTo?_isSome span lhs.span value lhs lhs).trans target)
    refine first.andThen (fun value r _ _ _ => ?_) fun value r _ last => ?_
    · obtain ⟨e, is⟩ := assigned (lhs.span.extend r.last) value
      simp only [followedBy_last, is]
      exact .done rfl rfl
    · obtain ⟨e, is⟩ := assigned (lhs.span.extend r.last) value
      simp only [is]
      exact last
  · have never (span : Span) (value : Expr Span) : assignTo? span value lhs = none :=
      Option.not_isSome_iff_eq_none.1 (by rwa [assignTo?_isSome span lhs.span value lhs lhs])
    cases p with
    | failed e stop => exact fun final => (first final).andThen
    | done value r fewer =>
      simp only [Parsed.andThen, never]
      exact fun _ => rejects_andThen rfl fun _ _ _ other => absurd rfl other

theorem join_persists {h : s.current.token ≠ .endOfInput}
    {h' : (s.followedBy more).current.token ≠ .endOfInput}
    (below : ∀ m : Stream, m.size < s.size → PersistsAt more m) :
    Persists more HasAhead (join c lhs s h) (join c lhs (s.followedBy more) h') := by
  have fewer := size_next_lt h
  have span : (s.followedBy more).current.span = s.current.span := by rw [followedBy_current h]
  have next (context : Precedence) : Persists more HasAhead (expression context s.next)
      (expression context (s.followedBy more).next) := by
    rw [followedBy_next h]
    exact below s.next fewer context
  cases c with
  | binary | logical | elvis =>
    rw [join, join]
    exact (next _).andThen (fun _ _ _ _ _ => .done rfl rfl) fun _ _ _ last => last
  | assignment =>
    rw [join, join, span]
    exact assignment_persists (Nat.le_of_lt fewer) (Nat.le_of_lt (size_next_lt h')) (next _)
  | ternary =>
    rw [join, join]
    refine (next _).andThen (fun yes r shorter _ _ => ?_) fun yes r _ last => ?_
    · refine expect_persists.andThen_anyway fun _ r' shorter' _ => ?_
      have no := below r' (by omega) Connective.ternary.precedence
      exact no.andThen (fun _ _ _ _ _ => .done rfl rfl) fun _ _ _ last => last
    · exact (expect_lapses last).andThen
  | call =>
    rw [join, join]
    have given : Persists more Anyway (arguments s.current.span s.next)
        (arguments (s.followedBy more).current.span (s.followedBy more).next) := by
      rw [followedBy_next h]
      exact arguments_persists fun m most => below m (by omega)
    refine given.andThen_anyway fun found r _ _ => ?_
    cases lhs with
    | get span target method => exact .done rfl rfl
    | _ => exact .failed rfl
  | member =>
    rw [join, join]
    have name : Persists more Anyway s.next.memberName (s.followedBy more).next.memberName := by
      rw [followedBy_next h]
      exact memberName_persists
    exact name.andThen_anyway fun _ _ _ _ => .done rfl rfl
  | index =>
    rw [join, join]
    refine (next _).andThen (fun key r _ _ _ => ?_) fun key r _ last => ?_
    · exact close_persists.andThen_anyway fun _ _ _ _ => .done rfl rfl
    · exact (close_lapses last).andThen

theorem joined_persists (s : Stream) (lhs : Expr Span)
    (below : ∀ m : Stream, m.size < s.size → PersistsAt more m) :
    Persists more HasAhead (joined context lhs s) (joined context lhs (s.followedBy more)) := by
  by_cases ahead : s.HasAhead
  · have same : (s.followedBy more).current.token = s.current.token := followedBy_token rfl ahead
    by_cases stop : ∀ c, Connective.ofToken? s.current.token = some c → c.binds context = false
    · rw [joined_eq_done stop, joined_eq_done (same ▸ stop)]
      exact .done rfl rfl
    · obtain ⟨c, connects, binds⟩ : ∃ c, Connective.ofToken? s.current.token = some c ∧
          c.binds context = true := by
        simpa using stop
      rw [joined_eq_join connects binds, joined_eq_join (same ▸ connects) binds]
      refine (join_persists below).andThen (fun lhs' r shorter _ _ => ?_) fun lhs' r _ last => ?_
      · exact (joined_persists r lhs' fun m less => below m (by omega)).widen
      · exact (joined_lapses last).widen _
  · exact (joined_lapses ahead).persists
termination_by s.size

theorem operand_persists (below : ∀ m : Stream, m.size < s.size → PersistsAt more m) :
    Persists more HasAhead (operand s) (operand (s.followedBy more)) := by
  by_cases ahead : s.HasAhead
  · have ahead' : (s.followedBy more).HasAhead := followedBy_ne ahead ahead
    have same : (s.followedBy more).current = s.current := followedBy_current ahead
    by_cases opens : s.current.token.opensExpression
    · rcases opensExpression_cases opens with
        ⟨op, token⟩ | ⟨function, token⟩ | token | ⟨e, leaf⟩
      · rw [operand_eq_unary op ahead token, operand_eq_unary op ahead' (same ▸ token)]
        exact unary_persists below
      · rw [operand_eq_builtinCall function ahead token,
          operand_eq_builtinCall function ahead' (same ▸ token)]
        exact (builtinCall_persists below).anywhere
      · have fewer := size_next_lt ahead
        rw [operand_eq_parens fewer token, operand_eq_parens (size_next_lt ahead') (same ▸ token)]
        have inside := below s.next fewer .lowest
        rw [← followedBy_next ahead] at inside
        refine inside.andThen (fun e r _ _ _ => ?_) fun e r _ last => ?_
        · exact close_persists.andThen_anyway fun _ _ _ _ => .done rfl rfl
        · exact (close_lapses last).andThen
      · refine .of_gives ((operand_leaf leaf).2 ⟨rfl, rfl⟩) ?_
        exact (operand_leaf (same ▸ leaf)).2 ⟨rfl, followedBy_next ahead⟩
    · have other : s.current.token.opensExpression = false := by simpa using opens
      rw [operand_eq_fail other, operand_eq_fail (same ▸ other)]
      exact .fail ahead (by rw [same])
  · exact (operand_lapses ahead).persists

theorem expression_persists (s : Stream) : PersistsAt more s := by
  intro context
  have below : ∀ m : Stream, m.size < s.size → PersistsAt more m := fun m _ => expression_persists m
  rw [expression, expression]
  refine (operand_persists below).andThen (fun lhs r shorter _ _ => ?_) fun lhs r _ last => ?_
  · exact (joined_persists r lhs fun m less => below m (by omega)).widen
  · exact (joined_lapses last).widen _
termination_by s.size

/-! ### Statements -/

/-- What a statement does on a stream it does on the one with more tokens. -/
def StatementPersistsAt (more : List SpannedToken) (s : Stream) : Prop :=
  Persists more HasAhead (statement s) (statement (s.followedBy more))

theorem expressionStatement_lapses (last : ¬ s.HasAhead) :
    Lapses settled (expressionStatement s) :=
  (expression_lapses last).andThen

theorem statement_lapses (last : ¬ s.HasAhead) : Lapses settled (statement s) := by
  rw [statement_eq_expressionStatement (by simp [not_not.1 last])]
  exact expressionStatement_lapses last

theorem block_lapses (last : ¬ s.HasAhead) : Lapses settled (block opened s) := by
  rw [block, if_pos (.inr (not_not.1 last))]
  exact (close_lapses last).andThen

theorem script_lapses (last : ¬ s.HasAhead) : Lapses HasAhead (script s) := by
  rw [script, if_pos (not_not.1 last)]
  exact last

theorem condition_persists {keyword : Construct} :
    Persists more Anyway (condition keyword s) (condition keyword (s.followedBy more)) := by
  unfold condition
  by_cases ahead : s.HasAhead
  · refine expect_persists.andThen_anyway fun _ r _ _ => ?_
    refine (expression_persists r .lowest).andThen (fun e r' _ _ _ => ?_) fun e r' _ last => ?_
    · exact close_persists.andThen_anyway fun _ _ _ _ => .done rfl rfl
    · exact (close_lapses last).andThen
  · exact ((expect_lapses ahead).andThen).persists

theorem expressionStatement_persists (ahead : s.HasAhead) :
    Persists more HasAhead (expressionStatement s) (expressionStatement (s.followedBy more)) := by
  have span : (s.followedBy more).current.span = s.current.span := by rw [followedBy_current ahead]
  unfold expressionStatement
  -- at the end of the input the statement ends without a semicolon, which is no settled rest
  refine (expression_persists s .lowest).andThen (fun e r _ _ ahead' => ?_) fun e r _ last => ?_
  · have same : (r.followedBy more).current = r.current := followedBy_current ahead'
    have next : (r.followedBy more).next = r.next.followedBy more := followedBy_next ahead'
    by_cases semicolon : r.current.token = mark .semicolon
    · rw [dif_pos semicolon, dif_pos (followedBy_token semicolon (by simp))]
      exact .done (by rw [span, next]; rfl) next
    rw [dif_neg semicolon, dif_neg (followedBy_ne ahead' semicolon)]
    by_cases brace : r.current.token = mark .rightBrace
    · rw [if_pos (.inl brace), if_pos (.inl (followedBy_token brace (by simp)))]
      exact .done (by rw [span]; rfl) rfl
    · rw [if_neg (not_or.2 ⟨brace, ahead'⟩),
        if_neg (not_or.2 ⟨followedBy_ne ahead' brace, followedBy_ne ahead' ahead'⟩)]
      exact .fail ahead' (by rw [same])
  · rw [dif_neg (by simp [not_not.1 last]), if_pos (.inr (not_not.1 last))]
    exact last

variable {h : s.current.token ≠ .endOfInput} {h' : (s.followedBy more).current.token ≠ .endOfInput}

theorem condition_persists_next {keyword : Construct} (ahead : s.HasAhead) :
    Persists more Anyway (condition keyword s.next)
      (condition keyword (s.followedBy more).next) := by
  rw [followedBy_next ahead]
  exact condition_persists

theorem conditional_persists
    (below : ∀ m : Stream, m.size < s.size → StatementPersistsAt more m) :
    Persists more HasAhead (conditional s h) (conditional (s.followedBy more) h') := by
  have fewer := size_next_lt h
  have span : (s.followedBy more).current.span = s.current.span := by rw [followedBy_current h]
  rw [conditional, conditional]
  refine (condition_persists_next h).andThen_anyway fun test m shorter _ => ?_
  refine (below m (by omega)).andThen (fun yes m' shorter' _ ahead => ?_) fun yes m' _ last => ?_
  · by_cases other : m'.current.token = .keyword .elseWord
    · rw [dif_pos other, dif_pos (followedBy_token other (by simp))]
      have fewer' := size_next_lt ahead
      have no := below m'.next (by omega)
      rw [StatementPersistsAt, ← followedBy_next ahead] at no
      exact no.andThen (fun _ _ _ _ _ => .done (by rw [span]; rfl) rfl) fun _ _ _ last => last
    · rw [dif_neg other, dif_neg (followedBy_ne ahead other)]
      exact .done (by rw [span]; rfl) rfl
  · rw [dif_neg (by simp [not_not.1 last])]
    exact last

theorem loop_persists (below : ∀ m : Stream, m.size < s.size → StatementPersistsAt more m) :
    Persists more HasAhead (loop s h) (loop (s.followedBy more) h') := by
  have fewer := size_next_lt h
  have span : (s.followedBy more).current.span = s.current.span := by rw [followedBy_current h]
  rw [loop, loop]
  refine (condition_persists_next h).andThen_anyway fun test m shorter _ => ?_
  exact (below m (by omega)).andThen (fun _ _ _ _ _ => .done (by rw [span]; rfl) rfl)
    fun _ _ _ last => last

theorem block_persists (s : Stream)
    (upto : ∀ m : Stream, m.size ≤ s.size → StatementPersistsAt more m) :
    Persists more Anyway (block opened s) (block opened' (s.followedBy more)) := by
  by_cases ahead : s.HasAhead
  · rw [block, block]
    by_cases brace : s.current.token = mark .rightBrace
    · rw [if_pos (.inl brace), if_pos (.inl (followedBy_token brace (by simp)))]
      exact close_persists.andThen_anyway fun _ _ _ _ => .done rfl rfl
    · rw [if_neg (not_or.2 ⟨brace, ahead⟩),
        if_neg (not_or.2 ⟨followedBy_ne ahead brace, followedBy_ne ahead ahead⟩)]
      refine (upto s (Nat.le_refl _)).andThen (fun first r shorter _ _ => ?_) fun _ r _ last => ?_
      · refine .andThen_anyway (block_persists r fun m most => upto m ?_) fun _ _ _ _ => ?_
        · omega
        · exact .done rfl rfl
      · exact (block_lapses last).andThen
  · exact (block_lapses ahead).persists
termination_by s.size

theorem statement_persists (s : Stream) : StatementPersistsAt more s := by
  have below : ∀ m : Stream, m.size < s.size → StatementPersistsAt more m :=
    fun m _ => statement_persists m
  by_cases ahead : s.HasAhead
  · have ahead' : (s.followedBy more).HasAhead := followedBy_ne ahead ahead
    have same : (s.followedBy more).current = s.current := followedBy_current ahead
    have next : (s.followedBy more).next = s.next.followedBy more := followedBy_next ahead
    have fewer := size_next_lt ahead
    have fewer' := size_next_lt ahead'
    rw [StatementPersistsAt]
    by_cases empty : s.current.token = mark .semicolon
    · rw [statement_eq_empty fewer empty, statement_eq_empty fewer' (same ▸ empty)]
      exact .done (by rw [same, next]; rfl) next
    by_cases ifWord : s.current.token = .keyword .ifWord
    · rw [statement_eq_conditional ahead ifWord, statement_eq_conditional ahead' (same ▸ ifWord)]
      exact conditional_persists below
    by_cases whileWord : s.current.token = .keyword .whileWord
    · rw [statement_eq_loop ahead whileWord, statement_eq_loop ahead' (same ▸ whileWord)]
      exact loop_persists below
    by_cases brace : s.current.token = mark .leftBrace
    · rw [statement_eq_block fewer brace, statement_eq_block fewer' (same ▸ brace)]
      have inside : Persists more Anyway (block s.current.span s.next)
          (block (s.followedBy more).current.span (s.followedBy more).next) := by
        rw [next]
        exact block_persists s.next fun m most => below m (by omega)
      exact inside.andThen_anyway fun _ _ _ _ => .done (by rw [same]; rfl) rfl
    · have other : s.current.token ∉
          [mark .semicolon, .keyword .ifWord, .keyword .whileWord, mark .leftBrace] := by
        simp [empty, ifWord, whileWord, brace]
      rw [statement_eq_expressionStatement other, statement_eq_expressionStatement (same ▸ other)]
      exact expressionStatement_persists ahead
  · exact (statement_lapses ahead).persists
termination_by s.size

theorem script_persists (s : Stream) :
    Persists more HasAhead (script s) (script (s.followedBy more)) := by
  by_cases ahead : s.HasAhead
  · rw [script, script, if_neg ahead, if_neg (followedBy_ne ahead ahead)]
    refine (statement_persists s).andThen (fun first r shorter _ _ => ?_) fun first r _ last => ?_
    · exact (script_persists r).andThen (fun _ _ _ _ _ => .done rfl rfl) fun _ _ _ last => last
    · exact Concludes.andThen (script_lapses last) (fun _ _ open? => open?) fun _ _ _ last => last
  · exact (script_lapses ahead).persists
termination_by s.size

theorem followedBy_skipSemicolon (ahead : s.HasAhead) :
    (s.followedBy more).skipSemicolon = s.skipSemicolon.followedBy more := by
  unfold skipSemicolon
  by_cases semicolon : s.current.token = mark .semicolon
  · rw [if_pos semicolon, if_pos (followedBy_token semicolon (by simp)), followedBy_next ahead]
  · rw [if_neg semicolon, if_neg (followedBy_ne ahead semicolon)]

theorem unit_persists (s : Stream) (mode : Mode) :
    Persists more HasAhead (s.unit mode) ((s.followedBy more).unit mode) := by
  cases mode with
  | expression =>
    rw [unit, unit]
    refine (expression_persists s .lowest).andThen (fun e r _ _ ahead => ?_) fun e r _ last => ?_
    · by_cases ends : r.skipSemicolon.current.token = .endOfInput
      · rw [if_pos ends]
        exact Lapses.persists (fun ahead => ahead ends)
      · have ends' : (r.followedBy more).skipSemicolon.current.token ≠ .endOfInput := by
          rw [followedBy_skipSemicolon ahead]
          exact followedBy_ne ends ends
        rw [if_neg ends, if_neg ends', followedBy_skipSemicolon ahead]
        exact .fail ends (by rw [followedBy_current ends])
    · have stays : r.skipSemicolon = r := if_neg (by simp [not_not.1 last])
      rw [if_pos (by rw [stays]; exact not_not.1 last)]
      exact fun ahead => last (stays ▸ ahead)
  | script =>
    rw [unit, unit]
    exact (script_persists s).andThen (fun _ _ _ _ _ => .done rfl rfl) fun _ _ _ last => last

end Stream

/-- An error that blames neither the end of the input nor a bracket that is open there stays,
whatever tokens follow. Only one of an assignment may become another error. -/
theorem parse_error_final {tokens : List SpannedToken} {mode : Mode} {e : SyntaxError}
    (inside : ∀ t ∈ tokens, t.token ≠ .endOfInput) (h : parse tokens mode = .error e)
    (closed : ∀ opening, e.cause ≠ .unclosed opening)
    (found : e.cause.found? ≠ some .endOfInput) (more : List SpannedToken) :
    ∃ e', parse (tokens ++ more) mode = .error e' ∧ (e.cause ≠ .invalidTarget → e' = e) := by
  obtain ⟨stop, failed⟩ := parse_eq_error_iff.1 h
  have persists : Stream.Persists more Stream.HasAhead ((Stream.ofTokens tokens).unit mode)
      (((Stream.ofTokens tokens).followedBy more).unit mode) := Stream.unit_persists _ mode
  have whole : (Stream.ofTokens tokens).followedBy more = Stream.ofTokens (tokens ++ more) := by
    have all : tokens.takeWhile (·.token ≠ .endOfInput) = tokens :=
      List.takeWhile_eq_self_iff.2 (by simpa using inside)
    simp only [Stream.followedBy, Stream.inside, Stream.ofTokens, all]
  rw [failed, whole] at persists
  have rejects := persists ⟨closed, found⟩
  cases rejected : (Stream.ofTokens (tokens ++ more)).unit mode with
  | done tree rest fewer =>
    rw [rejected] at rejects
    exact rejects.elim
  | failed e' stop' =>
    rw [rejected] at rejects
    exact ⟨e', parse_eq_error_iff.2 ⟨stop', rejected⟩, rejects⟩

/-- A call of a function `f` that is no member is rejected for the same reason whatever follows, and
an assignment to a number is rejected. -/
theorem parse_error_final_call_and_assignment : ∃ call assignment : List SpannedToken,
    call.map SpannedToken.token =
      [.identifier "f", mark .leftParen, .integer 1, mark .rightParen] ∧
    (∃ e, parse call .expression = .error e ∧ e.cause = .notCallable ∧
      ∀ more, parse (call ++ more) .expression = .error e) ∧
    assignment.map SpannedToken.token = [.integer 1, .sign .equals, .integer 2] ∧
    (∃ e, parse assignment .expression = .error e ∧ e.cause = .invalidTarget ∧
      ∀ more, ∃ e', parse (assignment ++ more) .expression = .error e') := by
  let call : List SpannedToken :=
    [⟨.identifier "f", .nowhere⟩, ⟨mark .leftParen, .nowhere⟩, ⟨.integer 1, .nowhere⟩,
      ⟨mark .rightParen, .nowhere⟩]
  let assignment : List SpannedToken :=
    [⟨.integer 1, .nowhere⟩, ⟨.sign .equals, .nowhere⟩, ⟨.integer 2, .nowhere⟩]
  have notCallable : parse call .expression = .error ⟨.nowhere, .notCallable⟩ :=
    parse_eq_error_of_map (by decide +kernel)
  have invalidTarget : parse assignment .expression = .error ⟨.nowhere, .invalidTarget⟩ :=
    parse_eq_error_of_map (by decide +kernel)
  refine ⟨call, assignment, rfl, ⟨_, notCallable, rfl, fun more => ?_⟩, rfl,
    ⟨_, invalidTarget, rfl, fun more => ?_⟩⟩
  · obtain ⟨e, fails, same⟩ :=
      parse_error_final (by simp [call]) notCallable (by simp) (by decide) more
    rwa [same (by simp)] at fails
  · obtain ⟨e, fails, -⟩ :=
      parse_error_final (by simp [assignment]) invalidTarget (by simp) (by decide) more
    exact ⟨e, fails⟩

end ExprScript
