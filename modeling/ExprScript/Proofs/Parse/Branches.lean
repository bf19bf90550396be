import ExprScript.Parse.Statement
import ExprScript.Proofs.Grammar.Basic

/-!
# Which branch a parser takes

The token ahead says what a parser does. For each of the parsers that look at it, the parser that it
then is.
-/

namespace ExprScript

/-- The tokens that an expression can start with. -/
@[simp] def Token.opensExpression : Token → Bool
  | sign operator => operator = .minus ∨ operator = .bang ∨ operator = .tilde
  | keyword word => word ∉ [Keyword.ifWord, .elseWord, .whileWord]
  | punctuation m => m = .leftParen
  | identifier _ | string _ | integer _ | float _ => true
  | endOfInput => false

namespace Stream

open Grammar

variable {s : Stream} {e lhs : Expr Span} {context : Precedence} {c : Connective}

/-- Such a token is an operator, the name of a built-in function, a parenthesis or an operand of its
own. -/
theorem opensExpression_cases {t : SpannedToken} (opens : t.token.opensExpression = true) :
    (∃ op : UnaryOp, t.token = .sign op.sign) ∨
    (∃ function : Builtin, t.token = .keyword function.keyword) ∨
    t.token = mark .leftParen ∨ ∃ e, literal? t = some e := by
  obtain ⟨token, span⟩ := t
  cases token with
  | punctuation m => exact .inr (.inr (.inl (by simpa using opens)))
  | sign operator =>
    refine .inl ?_
    rcases (by simpa using opens : operator = .minus ∨ operator = .bang ∨ operator = .tilde) with
      rfl | rfl | rfl
    · exact ⟨.negate, rfl⟩
    · exact ⟨.logicalNot, rfl⟩
    · exact ⟨.bitNot, rfl⟩
  | keyword word =>
    refine .inr ?_
    cases word with
    | sizeWord => exact .inl ⟨.size, rfl⟩
    | emptyWord => exact .inl ⟨.empty, rfl⟩
    | trueWord | falseWord | nullWord => exact .inr (.inr ⟨_, rfl⟩)
    | ifWord | elseWord | whileWord => simp at opens
  | identifier | string | integer | float => exact .inr (.inr (.inr ⟨_, rfl⟩))
  | endOfInput => simp at opens

theorem opensExpression_of_leaf {t : SpannedToken} (leaf : literal? t = some e) :
    t.token.opensExpression = true := by
  obtain ⟨token, span⟩ := t
  cases token with
  | keyword word => cases word <;> simp_all [literal?]
  | _ => simp_all [literal?]

theorem memberName_eq_fail (other : s.current.token.memberText? = none) :
    s.memberName = s.fail (.expectedMember s.current.token) := by
  unfold memberName
  split <;> simp_all [Token.memberText?]

theorem memberName_eq_done {name : String} (passed : s.next.size < s.size)
    (text : s.current.token.memberText? = some name) :
    s.memberName = .done ⟨name, s.current.span⟩ s.next passed := by
  unfold memberName
  split <;> simp_all [Token.memberText?]

/-! ### Expressions -/

theorem operand_eq_unary (op : UnaryOp) (h : s.current.token ≠ .endOfInput)
    (token : s.current.token = .sign op.sign) : operand s = unary op s h := by
  rw [operand]
  cases op <;> rw [UnaryOp.sign] at token <;> split <;> simp_all

theorem operand_eq_builtinCall (function : Builtin) (h : s.current.token ≠ .endOfInput)
    (token : s.current.token = .keyword function.keyword) :
    operand s = builtinCall function s h := by
  rw [operand]
  cases function <;> rw [Builtin.keyword] at token <;> split <;> simp_all

theorem operand_eq_parens (passed : s.next.size < s.size)
    (token : s.current.token = mark .leftParen) :
    operand s = (expression .lowest s.next).andThen fun e r fewer =>
      (r.close .leftParen .expression s.current.span).andThen fun _ r fewer' =>
        .done e r (size_lt_trans fewer' (size_lt_trans fewer passed)) := by
  rw [operand]
  split <;> simp_all

theorem operand_eq_leaf (passed : s.next.size < s.size) (leaf : literal? s.current = some e) :
    operand s = .done e s.next passed := by
  rw [operand]
  split
  case h_7 =>
    split
    · rename_i e' leaf'
      obtain rfl : e' = e := by simpa [leaf] using leaf'.symm
      rfl
    · rename_i none
      simp [leaf] at none
  all_goals
    rename_i token
    have current : s.current = ⟨s.current.token, s.current.span⟩ := rfl
    rw [current, token] at leaf
    simp [literal?] at leaf

theorem operand_eq_fail (other : s.current.token.opensExpression = false) :
    operand s = s.fail (.expectedExpression s.current.token) := by
  rw [operand]
  split
  case h_7 =>
    split
    · rename_i e leaf
      have opens := opensExpression_of_leaf leaf
      rw [other] at opens
      cases opens
    · rfl
  all_goals simp_all

theorem joined_eq_done
    (stop : ∀ c, Connective.ofToken? s.current.token = some c → c.binds context = false) :
    joined context lhs s = .done lhs s (Nat.lt_add_one _) := by
  rw [joined]
  split
  · rfl
  · rename_i c ahead
    rw [if_neg (by simp [stop c ahead])]

theorem joined_eq_join (ahead : Connective.ofToken? s.current.token = some c)
    (binds : c.binds context = true) :
    joined context lhs s = (join c lhs s (ne_end_of_ofToken? ahead)).andThen fun lhs r shorter =>
      (joined context lhs r).widen (Nat.le_succ_of_le shorter) := by
  rw [joined]
  split
  · rename_i none
    simp [ahead] at none
  · rename_i c' ahead'
    obtain rfl : c' = c := by simpa [ahead] using ahead'.symm
    rw [if_pos binds]

/-! ### Statements -/

theorem statement_eq_empty (passed : s.next.size < s.size)
    (token : s.current.token = mark .semicolon) :
    statement s = .done (.empty (s.current.span.extend s.next.last)) s.next passed := by
  rw [statement]
  split <;> simp_all

theorem statement_eq_conditional (h : s.current.token ≠ .endOfInput)
    (token : s.current.token = .keyword .ifWord) : statement s = conditional s h := by
  rw [statement]
  split <;> simp_all

theorem statement_eq_loop (h : s.current.token ≠ .endOfInput)
    (token : s.current.token = .keyword .whileWord) : statement s = loop s h := by
  rw [statement]
  split <;> simp_all

theorem statement_eq_block (passed : s.next.size < s.size)
    (token : s.current.token = mark .leftBrace) :
    statement s = (block s.current.span s.next).andThen fun body r fewer =>
      .done (.block (s.current.span.extend r.last) body) r (size_lt_trans fewer passed) := by
  rw [statement]
  split <;> simp_all

theorem statement_eq_expressionStatement
    (other : s.current.token ∉
      [mark .semicolon, .keyword .ifWord, .keyword .whileWord, mark .leftBrace]) :
    statement s = expressionStatement s := by
  rw [statement]
  split <;> simp_all

end Stream

end ExprScript
