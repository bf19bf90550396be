import ExprScript.Proofs.Parse.Branches
import ExprScript.Proofs.Parse.Mirrors

/-!
# Progress of the parser

Every routine of the parser ends on every stream, and does what the parser of its name does. It
takes only tokens that are there, none of them the end token, extends spans only to a token that it
has taken itself, and calls no routine again before it has taken a token. Therefore a run has no more
steps than a fixed number for each token taken, and a few.
-/

namespace ExprScript

/-! ### Branches of programs -/

namespace Program

variable {t : SpannedToken}

theorem operand_unary {op : UnaryOp} (token : t.token = .sign op.sign) :
    operand t = unary op t.span := by
  unfold operand
  rw [token]
  cases op <;> rfl

theorem operand_builtin {function : Builtin} (token : t.token = .keyword function.keyword) :
    operand t = builtinCall function t.span := by
  unfold operand
  rw [token]
  cases function <;> rfl

theorem operand_parens (token : t.token = .punctuation .leftParen) : operand t = parens t.span := by
  unfold operand
  rw [token]

theorem operand_leaf {e : Expr Span} (leaf : Stream.literal? t = some e) :
    operand t = (do pass; return e) := by
  obtain ⟨token, span⟩ := t
  cases token with
  | keyword word => cases word <;> simp_all [operand, Stream.literal?]
  | _ => simp_all [operand, Stream.literal?]

theorem operand_fail (other : t.token.opensExpression = false) :
    operand t = fail ⟨t.span, .expectedExpression t.token⟩ := by
  obtain ⟨token, span⟩ := t
  cases token with
  | keyword word => cases word <;> simp_all [operand, Stream.literal?]
  | sign operator => cases operator <;> simp_all [operand, Stream.literal?]
  | punctuation mark => cases mark <;> simp_all [operand, Stream.literal?]
  | _ => simp_all [operand, Stream.literal?]

end Program

namespace Stream

open Program (Mirrors)

variable {level : Nat} {base s : Stream}

/-! ### Single tokens -/

theorem expect_mirrors (since : Since base s) (mark : Punctuation) (after : Construct) :
    Mirrors level base s (Program.expect mark after) (s.expect mark after).outcome (-10) 1 := by
  unfold expect
  refine .ahead ?_
  split
  · rename_i here
    exact .pass (f := pure) since (by simp [here]) (.done (by decide))
  · exact .fail (by decide)

theorem close_mirrors (since : Since base s) (opening : Punctuation) (after : Construct)
    (opened : Span) :
    Mirrors level base s (Program.close opening after opened)
      (s.close opening after opened).outcome (-9) 2 := by
  unfold close
  refine .ahead ?_
  split
  · exact .fail (by decide)
  · exact expect_mirrors since _ after

theorem memberName_mirrors (since : Since base s) :
    Mirrors level base s Program.memberName s.memberName.outcome (-10) 1 := by
  refine .ahead ?_
  split
  · rename_i name here
    have inside := current_ne_end here (by simp)
    rw [memberName_eq_done (size_next_lt inside) (by rw [here, Token.memberText?])]
    exact .pass since inside (.done (by decide))
  · rename_i word here
    have inside := current_ne_end here (by simp)
    rw [memberName_eq_done (size_next_lt inside) (by rw [here, Token.memberText?])]
    exact .pass since inside (.done (by decide))
  · rename_i noName noWord
    rw [memberName_eq_fail]
    · exact .fail (by decide)
    · cases token : s.current.token <;> simp_all [Token.memberText?]

/-! ### Routines -/

-- The costs are chosen so that those of the parts add up to those of the whole; being numerals, they
-- are compared by `decide`. A loop may cost one step and gain nothing, so a round has to pay for its
-- own call: the token that it takes does.
/-- Every routine that starts at a stream mirrors the parser of its name. -/
structure MirroredAt (s : Stream) : Prop where
  operand : Routine.operand.Mirrored s (operand s).outcome (-10) 1
  joined : ∀ context lhs,
    (Routine.joined context lhs).Mirrored s (joined context lhs s).outcome 1 1
  expression : ∀ context,
    (Routine.expression context).Mirrored s (expression context s).outcome (-7) 2
  moreArguments : ∀ opened,
    (Routine.moreArguments opened).Mirrored s (moreArguments opened s).outcome (-10) 1
  arguments : ∀ opened, (Routine.arguments opened).Mirrored s (arguments opened s).outcome (-10) 4
  statement : Routine.statement.Mirrored s (statement s).outcome (-3) 4
  block : ∀ opened, (Routine.block opened).Mirrored s (block opened s).outcome (-8) 6
  script : Routine.script.Mirrored s (script s).outcome 1 6

section Routines

variable (below : ∀ m : Stream, m.size < s.size → MirroredAt m)

include below

theorem unary_mirrors (op : UnaryOp) (h : s.current.token ≠ .endOfInput) :
    Mirrors level s s (Program.unary op s.current.span) (unary op s h).outcome (-11) 0 := by
  have past := (Since.refl s).next h
  have next := below _ (size_next_lt h)
  rw [unary]
  refine .pass (.refl s) h (.andThen (.readPast (next.expression _) past) (by decide) ?_)
  intro e m fewer run between
  exact .covering (past.on between) (.done (by decide))

theorem builtinCall_mirrors (function : Builtin) (h : s.current.token ≠ .endOfInput) :
    Mirrors level s s (Program.builtinCall function s.current.span)
      (builtinCall function s h).outcome (-11) 0 := by
  have past := (Since.refl s).next h
  have passed := size_next_lt h
  rw [builtinCall]
  refine .pass (.refl s) h (.ahead (.andThen (expect_mirrors past.since _ _) (by decide) ?_))
  intro _ m fewer run between
  have past := past.on between
  have next := below m (Nat.lt_trans fewer passed)
  refine .andThen (.readPast (next.arguments _) past) (by decide) ?_
  intro found r fewer' run' between'
  refine .covering (past.on between') ?_
  cases found with
  | nil => exact .fail (by decide)
  | cons argument others =>
    cases others with
    | nil => exact .done (by decide)
    | cons => exact .fail (by decide)

theorem parens_mirrors (passed : s.next.size < s.size)
    (token : s.current.token = .punctuation .leftParen) :
    Mirrors level s s (Program.parens s.current.span) (operand s).outcome (-11) 0 := by
  have inside := current_ne_end token (by simp)
  have past := (Since.refl s).next inside
  rw [operand_eq_parens passed token]
  refine .pass (.refl s) inside (.andThen (.readPast ((below _ passed).expression _) past)
    (by decide) ?_)
  intro e m fewer run between
  refine .andThen (close_mirrors (past.on between).since _ _ _) (by decide) ?_
  intro _ r fewer' run' between'
  exact .done (by decide)

theorem operand_mirrored : Routine.operand.Mirrored s (operand s).outcome (-10) 1 := by
  refine .ahead ?_
  by_cases opens : s.current.token.opensExpression
  · rcases opensExpression_cases opens with
      ⟨op, token⟩ | ⟨function, token⟩ | token | ⟨leaf, found⟩
    · have inside := current_ne_end token (by simp)
      rw [operand_eq_unary op inside token, Program.operand_unary token]
      exact unary_mirrors below op inside
    · have inside := current_ne_end token (by simp)
      rw [operand_eq_builtinCall function inside token, Program.operand_builtin token]
      exact builtinCall_mirrors below function inside
    · rw [Program.operand_parens token]
      exact parens_mirrors below (size_next_lt_of_mark token) token
    · have inside := ne_end_of_literal? found
      rw [operand_eq_leaf (size_next_lt inside) found, Program.operand_leaf found]
      exact .pass (.refl s) inside (.done (by decide))
  · have other : s.current.token.opensExpression = false := by simpa using opens
    rw [operand_eq_fail other, Program.operand_fail other]
    exact .fail (by decide)

theorem join_mirrors (c : Connective) (lhs : Expr Span) (h : s.current.token ≠ .endOfInput) :
    Mirrors level s s (Program.join c lhs s.current.span) (join c lhs s h).outcome (-2) 0 := by
  have past := (Since.refl s).next h
  have passed := size_next_lt h
  have next := below _ passed
  refine .pass (.refl s) h ?_
  cases c with
  | binary op | logical op | elvis =>
    rw [join]
    refine .andThen (.readPast (next.expression _) past) (by decide) ?_
    intro rhs m fewer run between
    exact .covering (past.on between) (.done (by decide))
  | assignment =>
    rw [join]
    refine .andThen (.readPast (next.expression _) past) (by decide) ?_
    intro value m fewer run between
    refine .covering (past.on between) ?_
    cases target : assignTo? (lhs.span.extend m.last) value lhs with
    | some e =>
      simp only
      exact .done (by decide)
    | none =>
      simp only
      exact .fail (by decide)
  | ternary =>
    rw [join]
    refine .andThen (.readPast (next.expression _) past) (by decide) ?_
    intro yes m fewer run between
    have past := past.on between
    refine .andThen (expect_mirrors past.since _ _) (by decide) ?_
    intro _ m' fewer' run' between'
    have past := past.on between'
    have later := below m' (Nat.lt_trans fewer' (Nat.lt_trans fewer passed))
    refine .andThen (.readPast (later.expression _) past) (by decide) ?_
    intro no r fewer'' run'' between''
    exact .covering (past.on between'') (.done (by decide))
  | call =>
    rw [join]
    refine .andThen (.readPast (next.arguments _) past) (by decide) ?_
    intro found m fewer run between
    cases lhs with
    | get => exact .covering (past.on between) (.done (by decide))
    | _ => exact .fail (by decide)
  | member =>
    rw [join]
    refine .andThen (memberName_mirrors past.since) (by decide) ?_
    intro name m fewer run between
    exact .covering (past.on between) (.done (by decide))
  | index =>
    rw [join]
    refine .andThen (.readPast (next.expression _) past) (by decide) ?_
    intro key m fewer run between
    have past := past.on between
    refine .andThen (close_mirrors past.since _ _ _) (by decide) ?_
    intro _ r fewer' run' between'
    exact .covering (past.on between') (.done (by decide))

theorem joined_mirrored (context : Precedence) (lhs : Expr Span) :
    (Routine.joined context lhs).Mirrored s (joined context lhs s).outcome 1 1 := by
  refine .ahead ?_
  split
  · rename_i none
    rw [joined_eq_done (by simp [none])]
    exact .done (by decide)
  · rename_i c ahead
    split
    · rename_i binds
      rw [joined_eq_join ahead binds]
      refine .andThen (join_mirrors below c lhs _) (by decide) ?_
      intro e m fewer run between
      rw [Parsed.outcome_widen]
      have past := (Since.refl s).past between fewer
      exact (Mirrors.readPast ((below m fewer).joined context e) past).mono (by decide) (by decide)
    · rename_i loose
      rw [joined_eq_done (by simpa [ahead] using loose)]
      exact .done (by decide)

theorem expression_mirrored (operand : Routine.operand.Mirrored s (operand s).outcome (-10) 1)
    (context : Precedence) :
    (Routine.expression context).Mirrored s (expression context s).outcome (-7) 2 := by
  rw [expression]
  refine .andThen (.readLower operand (.refl s) Nat.zero_lt_one) (by decide) ?_
  intro lhs m fewer run between
  rw [Parsed.outcome_widen]
  have past := (Since.refl s).past between fewer
  exact (Mirrors.readPast ((below m fewer).joined context lhs) past).mono (by decide) (by decide)

theorem moreArguments_mirrored (opened : Span) :
    (Routine.moreArguments opened).Mirrored s (moreArguments opened s).outcome (-10) 1 := by
  rw [moreArguments]
  refine .ahead ?_
  split
  · rename_i close
    exact .pass (.refl s) (current_ne_end close (by simp)) (.done (by decide))
  · split
    · exact .fail (by decide)
    · split
      · rename_i comma
        have inside := current_ne_end comma (by simp)
        have past := (Since.refl s).next inside
        have passed := size_next_lt inside
        have next := below _ passed
        refine .pass (.refl s) inside (.andThen (.readPast (next.expression _) past) (by decide) ?_)
        intro argument m fewer run between
        have past := past.on between
        have later := below m (Nat.lt_trans fewer passed)
        refine .andThen (.readPast (later.moreArguments opened) past) (by decide) ?_
        intro others r fewer' run' between'
        exact .done (by decide)
      · exact .fail (by decide)

theorem arguments_mirrored
    (expression : (Routine.expression .lowest).Mirrored s (expression .lowest s).outcome (-7) 2)
    (opened : Span) :
    (Routine.arguments opened).Mirrored s (arguments opened s).outcome (-10) 4 := by
  rw [arguments]
  refine .ahead ?_
  split
  · rename_i close
    exact .pass (.refl s) (current_ne_end close (by simp)) (.done (by decide))
  · refine .andThen (.readLower expression (.refl s) Nat.one_lt_two) (by decide) ?_
    intro first m fewer run between
    have past := (Since.refl s).past between fewer
    refine .andThen (.readPast ((below m fewer).moreArguments opened) past) (by decide) ?_
    intro others r fewer' run' between'
    unfold countedArguments
    cases surplus : (first :: others)[maxArguments]? with
    | some extra => exact .fail (by decide)
    | none => exact .done (by decide)

theorem condition_mirrors (keyword : Construct) (past : Past base s) :
    Mirrors level base s (Program.condition keyword) (condition keyword s).outcome (-24) 2 := by
  refine .ahead (.andThen (expect_mirrors past.since _ _) (by decide) ?_)
  intro _ m fewer run between
  have past := past.on between
  refine .andThen (.readPast ((below m fewer).expression _) past) (by decide) ?_
  intro e m' fewer' run' between'
  have past := past.on between'
  refine .andThen (close_mirrors past.since _ _ _) (by decide) ?_
  intro _ r fewer'' run'' between''
  exact .done (by decide)

theorem conditional_mirrors (h : s.current.token ≠ .endOfInput) :
    Mirrors level s s (Program.conditional s.current.span) (conditional s h).outcome (-11) 0 := by
  have past := (Since.refl s).next h
  have passed := size_next_lt h
  rw [conditional]
  refine .pass (.refl s) h (.andThen
    (condition_mirrors (fun m less => below m (Nat.lt_trans less passed)) _ past) (by decide) ?_)
  intro test m fewer run between
  have past := past.on between
  have shorter := Nat.lt_trans fewer passed
  refine .andThen (.readPast (below m shorter).statement past) (by decide) ?_
  intro yes m' fewer' run' between'
  have past := past.on between'
  refine .ahead ?_
  split
  · rename_i other
    have inside := current_ne_end other (by simp)
    have shorter := Nat.lt_trans (Nat.lt_trans (size_next_lt inside) fewer') shorter
    refine .pass past.since inside (.andThen
      (.readPast (below _ shorter).statement (past.since.next inside)) (by decide) ?_)
    intro no r fewer'' run'' between''
    exact .covering ((past.since.next inside).on between'') (.done (by decide))
  · exact .covering past (.done (by decide))

theorem loop_mirrors (h : s.current.token ≠ .endOfInput) :
    Mirrors level s s (Program.loop s.current.span) (loop s h).outcome (-11) 0 := by
  have past := (Since.refl s).next h
  have passed := size_next_lt h
  rw [loop]
  refine .pass (.refl s) h (.andThen
    (condition_mirrors (fun m less => below m (Nat.lt_trans less passed)) _ past) (by decide) ?_)
  intro test m fewer run between
  have past := past.on between
  refine .andThen (.readPast (below m (Nat.lt_trans fewer passed)).statement past) (by decide) ?_
  intro body r fewer' run' between'
  exact .covering (past.on between') (.done (by decide))

theorem braces_mirrors (passed : s.next.size < s.size)
    (token : s.current.token = .punctuation .leftBrace) :
    Mirrors level s s (Program.braces s.current.span) (statement s).outcome (-11) 0 := by
  have inside := current_ne_end token (by simp)
  have past := (Since.refl s).next inside
  rw [statement_eq_block passed token]
  refine .pass (.refl s) inside (.andThen (.readPast ((below _ passed).block _) past) (by decide) ?_)
  intro body r fewer run between
  exact .covering (past.on between) (.done (by decide))

theorem statement_mirrored
    (expression : (Routine.expression .lowest).Mirrored s (expression .lowest s).outcome (-7) 2) :
    Routine.statement.Mirrored s (statement s).outcome (-3) 4 := by
  refine .ahead ?_
  unfold Program.statement
  split
  · rename_i token
    have inside := current_ne_end token (by simp)
    rw [statement_eq_empty (size_next_lt inside) token]
    exact .pass (.refl s) inside (.covering ((Since.refl s).next inside) (.done (by decide)))
  · rename_i token
    have inside := current_ne_end token (by simp)
    rw [statement_eq_conditional inside token]
    exact (conditional_mirrors below inside).mono (by decide) (by decide)
  · rename_i token
    have inside := current_ne_end token (by simp)
    rw [statement_eq_loop inside token]
    exact (loop_mirrors below inside).mono (by decide) (by decide)
  · rename_i token
    exact (braces_mirrors below (size_next_lt_of_mark token) token).mono (by decide) (by decide)
  · rw [statement_eq_expressionStatement (by simp_all)]
    refine .andThen (.readLower expression (.refl s) Nat.one_lt_two) (by decide) ?_
    intro e m fewer run between
    have past := (Since.refl s).past between fewer
    refine .ahead ?_
    split
    · rename_i semicolon
      have inside := current_ne_end semicolon (by simp)
      exact .pass past.since inside (.covering (past.since.next inside) (.done (by decide)))
    · split
      · exact .covering past (.done (by decide))
      · exact .fail (by decide)

theorem block_mirrored (statement : Routine.statement.Mirrored s (statement s).outcome (-3) 4)
    (opened : Span) : (Routine.block opened).Mirrored s (block opened s).outcome (-8) 6 := by
  rw [block]
  refine .ahead ?_
  split
  · refine .andThen (close_mirrors (.refl s) _ _ _) (by decide) ?_
    intro _ r fewer run between
    exact .done (by decide)
  · refine .andThen (.readLower statement (.refl s) (Nat.lt_add_one 2)) (by decide) ?_
    intro first m fewer run between
    have past := (Since.refl s).past between fewer
    refine .andThen (.readPast ((below m fewer).block opened) past) (by decide) ?_
    intro others r fewer' run' between'
    exact .done (by decide)

theorem script_mirrored (statement : Routine.statement.Mirrored s (statement s).outcome (-3) 4) :
    Routine.script.Mirrored s (script s).outcome 1 6 := by
  rw [script]
  refine .ahead ?_
  split
  · exact .done (by decide)
  · refine .andThen (.readLower statement (.refl s) (Nat.lt_add_one 2)) (by decide) ?_
    intro first m fewer run between
    have past := (Since.refl s).past between fewer
    refine .andThen (.readPast (below m fewer).script past) (by decide) ?_
    intro others r fewer' run' between'
    exact .done (by decide)

end Routines

/-- By recursion on the tokens ahead: a routine that is called on the same stream is lower. -/
theorem mirroredAt (s : Stream) : MirroredAt s :=
  have below (m : Stream) (_ : m.size < s.size) := mirroredAt m
  have operand := operand_mirrored below
  have expression := expression_mirrored below operand
  have statement := statement_mirrored below (expression .lowest)
  { operand
    joined := joined_mirrored below
    expression
    moreArguments := moreArguments_mirrored below
    arguments := arguments_mirrored below (expression .lowest)
    statement
    block := block_mirrored below statement
    script := script_mirrored below statement }
termination_by s.size

theorem finish_mirrors {k : Nat} (e : Expr Span) (enough : s.size < k) :
    Mirrors level base s (Program.finish e)
      (if s.current.token = .endOfInput then .done (.expression e) s enough
        else s.fail (.trailing s.current.token) : Parsed (Tree Span) k).outcome 1 1 := by
  refine .ahead ?_
  split
  · exact .done (by decide)
  · exact .fail (by decide)

theorem unit_mirrored (mode : Mode) (s : Stream) :
    (Routine.unit mode).Mirrored s (s.unit mode).outcome 2 7 := by
  cases mode with
  | expression =>
    refine .andThen (.readLower ((mirroredAt s).expression .lowest) (.refl s) (by decide))
      (by decide) ?_
    intro e m fewer run between
    refine .ahead ?_
    -- The parser goes on with one stream or the other, the program with the same part twice.
    by_cases semicolon : m.current.token = .punctuation .semicolon
    · have skipped : m.skipSemicolon = m.next := if_pos semicolon
      have since := (Since.refl s).on between
      simp only [skipped, if_pos semicolon]
      refine .pass since (current_ne_end semicolon (by simp)) ?_
      exact (finish_mirrors e _).mono (by decide) (by decide)
    · have skipped : m.skipSemicolon = m := if_neg semicolon
      simp only [skipped, if_neg semicolon]
      exact (finish_mirrors e _).mono (by decide) (by decide)
  | script =>
    refine .andThen (.readLower (mirroredAt s).script (.refl s) (Nat.lt_add_one 3)) (by decide) ?_
    intro body r fewer run between
    exact .done (by decide)

end Stream

/-- What the parser of a routine's name gives or blames on a stream, and where it stops. -/
def Routine.outcome : Routine α → Stream → Except SyntaxError α × Stream
  | .expression context, s => (s.expression context).outcome
  | .operand, s => s.operand.outcome
  | .joined context lhs, s => (s.joined context lhs).outcome
  | .arguments opened, s => (s.arguments opened).outcome
  | .moreArguments opened, s => (s.moreArguments opened).outcome
  | .statement, s => s.statement.outcome
  | .block opened, s => (s.block opened).outcome
  | .script, s => s.script.outcome
  | .unit mode, s => (s.unit mode).outcome

/-- The routines that give nothing without a token: all but the loops that may end at once, and the
units made of them. -/
def Routine.takesToken : Routine α → Bool
  | .joined .. | .script | .unit _ => false
  | _ => true

/-- A routine that starts at `s` ends with the outcome of its parser: it takes the tokens `taken` and
does what `events` say, and nothing else. -/
structure Routine.Progresses (routine : Routine α) (s : Stream) (events : List Event)
    (taken : List SpannedToken) : Prop where
  runs : Runs routine.body s events (routine.outcome s)
  only : ∀ events' o, Runs routine.body s events' o → events' = events ∧ o = routine.outcome s
  between : Stream.Between s taken (routine.outcome s).2
  takes : routine.takesToken → ∀ value rest, routine.outcome s = (.ok value, rest) → taken ≠ []
  /-- In particular each round of a loop has taken a token when the next one begins. -/
  sound : ∀ e ∈ events, e.Sound routine.level s
  steps : Event.stepsOfAll events ≤ 12 * taken.length + 7

theorem Routine.mirrored (routine : Routine α) (s : Stream) :
    routine.Mirrored s (routine.outcome s) 2 7 := by
  have here := Stream.mirroredAt s
  cases routine with
  | expression context => exact (here.expression context).mono (by decide) (by decide)
  | operand => exact here.operand.mono (by decide) (by decide)
  | joined context lhs => exact (here.joined context lhs).mono (by decide) (by decide)
  | arguments opened => exact (here.arguments opened).mono (by decide) (by decide)
  | moreArguments opened => exact (here.moreArguments opened).mono (by decide) (by decide)
  | statement => exact here.statement.mono (by decide) (by decide)
  | block opened => exact (here.block opened).mono (by decide) (by decide)
  | script => exact here.script.mono (by decide) (by decide)
  | unit mode => exact Stream.unit_mirrored mode s

theorem Parsed.fewer_of_outcome {p : Parsed α n} {value : α} {rest : Stream}
    (h : p.outcome = (.ok value, rest)) : rest.size < n := by
  cases p with
  | done _ _ fewer =>
    cases h
    exact fewer
  | failed => cases h

theorem Routine.fewer {routine : Routine α} (takes : routine.takesToken) {s rest : Stream}
    {value : α} (h : routine.outcome s = (.ok value, rest)) : rest.size < s.size := by
  cases routine with
  | joined | script | unit => cases takes
  | _ => exact Parsed.fewer_of_outcome h

theorem Routine.progresses (routine : Routine α) (s : Stream) :
    ∃ events taken, routine.Progresses s events taken := by
  obtain ⟨events, taken, runs, sound, between, steps⟩ := routine.mirrored s
  refine ⟨events, taken, runs, fun events' o other => other.unique runs, between, ?_, sound, ?_⟩
  · intro takes value rest h
    rw [h] at between
    exact between.ne_nil (Routine.fewer takes h)
  · unfold allowance at steps
    split at steps <;> omega

theorem Routine.outcome_unit (mode : Mode) (tokens : List SpannedToken) :
    ((Routine.unit mode).outcome (.ofTokens tokens)).1 = parse tokens mode := by
  rw [Routine.outcome, parse]
  cases (Stream.ofTokens tokens).unit mode <;> rfl

/-- Every routine of the parser ends on every stream, with the outcome of its parser. It takes no end
token, extends spans to tokens that it has taken only, comes back to itself only when it has taken a
token, and gives nothing without a token unless it is a loop that ends at once. So the tokens taken
bound the steps, and the parser reads every token list in a number of steps that its length bounds. -/
theorem parser_progresses :
    (∀ {α : Type} (routine : Routine α) (s : Stream),
      ∃ events taken, routine.Progresses s events taken) ∧
    ∀ (tokens : List SpannedToken) (mode : Mode), ∃ events rest,
      Runs (Routine.unit mode).body (.ofTokens tokens) events (parse tokens mode, rest) ∧
      Event.stepsOfAll events ≤ 12 * tokens.length + 7 := by
  refine ⟨Routine.progresses, fun tokens mode => ?_⟩
  obtain ⟨events, taken, h⟩ := (Routine.unit mode).progresses (.ofTokens tokens)
  have listed : tokens = taken ++ _ := h.between.rest
  have fewer : taken.length ≤ tokens.length := by
    rw [listed]
    simp
  refine ⟨events, ((Routine.unit mode).outcome (.ofTokens tokens)).2, ?_, ?_⟩
  · rw [← Routine.outcome_unit]
    exact h.runs
  · have steps := h.steps
    omega

end ExprScript
