import ExprScript.Proofs.Parse.Branches
import ExprScript.Proofs.Parse.Taking

/-!
# When the parsers of expressions succeed

For every parser, what its successes are made of: the successes of the parsers it calls and the
tokens it takes itself. These statements are all that is used of the parsers elsewhere.
-/

namespace ExprScript

namespace Stream

open Parsed

variable {s r : Stream} {e lhs : Expr Span} {context : Precedence} {c : Connective}

theorem expression_gives :
    (expression context s).Gives e r ↔
      ∃ lhs m, (operand s).Gives lhs m ∧ (joined context lhs m).Gives e r := by
  rw [expression]
  simp only [gives_andThen, gives_widen, exists_prop]

/-- Nothing is joined to an operand when the context takes it. -/
theorem joined_stop
    (stop : ∀ c, Connective.ofToken? s.current.token = some c → c.binds context = false) :
    (joined context lhs s).Gives e r ↔ lhs = e ∧ s = r := by
  rw [joined_eq_done stop]
  exact gives_done

/-- A connective that binds tightly enough is joined, and then all that follows. -/
theorem joined_step (ahead : Connective.ofToken? s.current.token = some c)
    (binds : c.binds context = true) :
    (joined context lhs s).Gives e r ↔
      ∃ e' m, (join c lhs s (ne_end_of_ofToken? ahead)).Gives e' m ∧
        (joined context e' m).Gives e r := by
  rw [joined_eq_join ahead binds]
  simp only [gives_andThen, gives_widen, exists_prop]

section Join

variable {h : s.current.token ≠ .endOfInput}

theorem join_binary {op : BinaryOp} :
    (join (.binary op) lhs s h).Gives e r ↔
      ∃ rhs, (expression (Connective.binary op).precedence s.next).Gives rhs r ∧
        .binary (lhs.span.extend r.last) op lhs rhs = e := by
  simp only [join, gives_andThen, gives_done, exists_prop]
  grind

theorem join_logical {op : LogicalOp} :
    (join (.logical op) lhs s h).Gives e r ↔
      ∃ rhs, (expression (Connective.logical op).precedence s.next).Gives rhs r ∧
        .logical (lhs.span.extend r.last) op lhs rhs = e := by
  simp only [join, gives_andThen, gives_done, exists_prop]
  grind

theorem join_elvis :
    (join .elvis lhs s h).Gives e r ↔
      ∃ rhs, (expression .ternary s.next).Gives rhs r ∧
        .elvis (lhs.span.extend r.last) lhs rhs = e := by
  simp only [join, gives_andThen, gives_done, exists_prop, Connective.precedence]
  grind

theorem join_assignment :
    (join .assignment lhs s h).Gives e r ↔
      ∃ value, (expression .assignment s.next).Gives value r ∧
        assignTo? (lhs.span.extend r.last) value lhs = some e := by
  simp only [join, gives_andThen, Connective.precedence]
  constructor
  · rintro ⟨value, r', first, h⟩
    split at h
    · rename_i e' target
      obtain ⟨rfl, rfl⟩ := gives_done.1 h
      exact ⟨value, first, target⟩
    · exact absurd h gives_failed
  · rintro ⟨value, first, target⟩
    exact ⟨value, r, first, by simp [target]⟩

theorem join_ternary :
    (join .ternary lhs s h).Gives e r ↔
      ∃ yes m m' no, (expression .lowest s.next).Gives yes m ∧
        Takes m [.punctuation .colon] m' ∧ (expression .ternary m').Gives no r ∧
        .ternary (lhs.span.extend r.last) lhs yes no = e := by
  simp only [join, gives_andThen, gives_done, exists_prop, Connective.precedence, expect_gives]
  grind

theorem join_member :
    (join .member lhs s h).Gives e r ↔
      ∃ member, s.next.memberName.Gives member r ∧
        .get (lhs.span.extend r.last) lhs member = e := by
  simp only [join, gives_andThen, gives_done, exists_prop]
  grind

theorem join_index :
    (join .index lhs s h).Gives e r ↔
      ∃ key m, (expression .lowest s.next).Gives key m ∧
        Takes m [.punctuation .rightBracket] r ∧
        .index (lhs.span.extend r.last) lhs key = e := by
  simp only [join, gives_andThen, gives_done, exists_prop, close_gives, closing]
  grind

/-- Only a member is called. -/
theorem join_call :
    (join .call lhs s h).Gives e r ↔
      ∃ span target method found, lhs = .get span target method ∧
        (arguments s.current.span s.next).Gives found r ∧
        .call (lhs.span.extend r.last) target method found = e := by
  simp only [join, gives_andThen]
  constructor
  · rintro ⟨found, r', first, h⟩
    split at h
    · obtain ⟨rfl, rfl⟩ := gives_done.1 h
      exact ⟨_, _, _, found, rfl, first, rfl⟩
    · exact absurd h gives_failed
  · rintro ⟨span, target, method, found, rfl, first, rfl⟩
    exact ⟨found, r, first, by simp⟩

end Join

theorem countedArguments_gives {bound : Nat} {found es : List (Expr Span)} {m : Stream}
    {fewer : m.size < bound} :
    (countedArguments found m fewer).Gives es r ↔
      found.length ≤ maxArguments ∧ found = es ∧ m = r := by
  unfold countedArguments
  split
  · rename_i extra h
    have := (List.getElem?_eq_some_iff.1 h).1
    simp only [gives_failed, false_iff]
    omega
  · rename_i h
    simp [List.getElem?_eq_none_iff.1 h]

theorem moreArguments_gives {opened : Span} {es : List (Expr Span)} :
    (moreArguments opened s).Gives es r ↔
      (Takes s [.punctuation .rightParen] r ∧ es = []) ∨
      ∃ e others m m', Takes s [.punctuation .comma] m ∧ (expression .lowest m).Gives e m' ∧
        (moreArguments opened m').Gives others r ∧ es = e :: others := by
  rw [moreArguments]
  split
  · rename_i close
    simp [close]
    grind
  · split
    · rename_i none
      simp [none]
    · split
      · rename_i comma
        simp only [gives_andThen, gives_done, exists_prop, Takes.cons_iff, Takes.nil_iff, comma]
        grind
      · simp_all [fail]

theorem arguments_gives {opened : Span} {es : List (Expr Span)} :
    (arguments opened s).Gives es r ↔
      (Takes s [.punctuation .rightParen] r ∧ es = []) ∨
      (s.current.token ≠ .punctuation .rightParen ∧
        ∃ e others m, (expression .lowest s).Gives e m ∧ (moreArguments opened m).Gives others r ∧
          es = e :: others ∧ es.length ≤ maxArguments) := by
  rw [arguments]
  split
  · rename_i close
    simp [close]
    grind
  · rename_i more
    simp only [gives_andThen, countedArguments_gives, exists_prop, Takes.cons_iff, more, false_and,
      false_or, ne_eq, not_false_eq_true, true_and]
    grind

theorem unary_gives {op : UnaryOp} {h : s.current.token ≠ .endOfInput} :
    (unary op s h).Gives e r ↔
      ∃ e', (expression .unary s.next).Gives e' r ∧
        .unary (s.current.span.extend r.last) op e' = e := by
  simp only [unary, gives_andThen, gives_done, exists_prop]
  grind

theorem builtinCall_gives {function : Builtin} {h : s.current.token ≠ .endOfInput} :
    (builtinCall function s h).Gives e r ↔
      ∃ argument m, Takes s.next [.punctuation .leftParen] m ∧
        (arguments s.next.current.span m).Gives [argument] r ∧
        .builtin (s.current.span.extend r.last) function argument = e := by
  simp only [builtinCall, gives_andThen, expect_gives]
  constructor
  · rintro ⟨_, m, opened, found, r', first, h⟩
    split at h
    · obtain ⟨rfl, rfl⟩ := gives_done.1 h
      exact ⟨_, m, opened, first, rfl⟩
    · exact absurd h gives_failed
  · rintro ⟨argument, m, opened, first, rfl⟩
    exact ⟨(), m, opened, _, r, first, by simp⟩

theorem operand_unary {op : UnaryOp} (h : s.current.token = .sign op.sign) :
    (operand s).Gives e r ↔
      ∃ e', (expression .unary s.next).Gives e' r ∧
        .unary (s.current.span.extend r.last) op e' = e := by
  rw [operand_eq_unary op (current_ne_end h (by simp)) h]
  exact unary_gives

theorem operand_builtin {function : Builtin} (h : s.current.token = .keyword function.keyword) :
    (operand s).Gives e r ↔
      ∃ argument m, Takes s.next [.punctuation .leftParen] m ∧
        (arguments s.next.current.span m).Gives [argument] r ∧
        .builtin (s.current.span.extend r.last) function argument = e := by
  rw [operand_eq_builtinCall function (current_ne_end h (by simp)) h]
  exact builtinCall_gives

theorem operand_parens (h : s.current.token = .punctuation .leftParen) :
    (operand s).Gives e r ↔
      ∃ m, (expression .lowest s.next).Gives e m ∧ Takes m [.punctuation .rightParen] r := by
  rw [operand_eq_parens (size_next_lt_of_mark h) h]
  simp only [gives_andThen, gives_done, exists_prop, close_gives, closing]
  grind

theorem operand_leaf {leaf : Expr Span} (h : literal? s.current = some leaf) :
    (operand s).Gives e r ↔ leaf = e ∧ s.next = r := by
  rw [operand_eq_leaf (size_next_lt (ne_end_of_literal? h)) h]
  exact gives_done

/-- The tokens that are operands of their own are the literals and the names. -/
theorem literal?_eq_some_iff {t : SpannedToken} :
    literal? t = some e ↔
      (∃ value, t.token = value.token ∧ .literal t.span value = e) ∨
      (∃ text, t.token = .identifier text ∧ .var ⟨text, t.span⟩ = e) := by
  obtain ⟨token, span⟩ := t
  constructor
  · intro h
    cases token with
    | keyword word =>
      cases word <;> simp only [literal?, reduceCtorEq, Option.some.injEq] at h
      · exact .inl ⟨.boolean true, rfl, h⟩
      · exact .inl ⟨.boolean false, rfl, h⟩
      · exact .inl ⟨.null, rfl, h⟩
    | identifier text => exact .inr ⟨text, rfl, Option.some.inj h⟩
    | string text => exact .inl ⟨.string text, rfl, Option.some.inj h⟩
    | integer value => exact .inl ⟨.integer value, rfl, Option.some.inj h⟩
    | float value => exact .inl ⟨.float value, rfl, Option.some.inj h⟩
    | punctuation | sign | endOfInput => simp [literal?] at h
  · rintro (⟨value, rfl, rfl⟩ | ⟨text, rfl, rfl⟩)
    · cases value with
      | boolean b => cases b <;> rfl
      | _ => rfl
    · rfl

/-- An operand starts with an operator, with the name of a built-in function or with a parenthesis,
or it is a single token. -/
theorem operand_gives :
    (operand s).Gives e r ↔
      (∃ op e', s.current.token = .sign op.sign ∧ (expression .unary s.next).Gives e' r ∧
        .unary (s.current.span.extend r.last) op e' = e) ∨
      (∃ function argument m, s.current.token = .keyword function.keyword ∧
        Takes s.next [.punctuation .leftParen] m ∧
        (arguments s.next.current.span m).Gives [argument] r ∧
        .builtin (s.current.span.extend r.last) function argument = e) ∨
      (∃ m, s.current.token = .punctuation .leftParen ∧ (expression .lowest s.next).Gives e m ∧
        Takes m [.punctuation .rightParen] r) ∨
      (literal? s.current = some e ∧ s.next = r) := by
  constructor
  · intro h
    by_cases opens : s.current.token.opensExpression
    · rcases opensExpression_cases opens with
        ⟨op, token⟩ | ⟨function, token⟩ | token | ⟨leaf, found⟩
      · obtain ⟨e', made⟩ := (operand_unary token).1 h
        exact .inl ⟨op, e', token, made⟩
      · obtain ⟨argument, m, made⟩ := (operand_builtin token).1 h
        exact .inr (.inl ⟨function, argument, m, token, made⟩)
      · obtain ⟨m, made⟩ := (operand_parens token).1 h
        exact .inr (.inr (.inl ⟨m, token, made⟩))
      · obtain ⟨rfl, rfl⟩ := (operand_leaf found).1 h
        exact .inr (.inr (.inr ⟨found, rfl⟩))
    · rw [operand_eq_fail (by simpa using opens)] at h
      exact absurd h gives_failed
  · rintro (⟨op, e', token, made⟩ | ⟨function, argument, m, token, made⟩ | ⟨m, token, made⟩ |
      ⟨leaf, rfl⟩)
    · exact (operand_unary token).2 ⟨e', made⟩
    · exact (operand_builtin token).2 ⟨argument, m, made⟩
    · exact (operand_parens token).2 ⟨m, made⟩
    · exact (operand_leaf leaf).2 ⟨rfl, rfl⟩

/-- An expression starts with a token that an operand starts with. -/
theorem opensExpression_of_gives (h : (expression context s).Gives e r) :
    s.current.token.opensExpression = true := by
  obtain ⟨lhs, m, first, -⟩ := expression_gives.1 h
  rcases operand_gives.1 first with
    ⟨op, _, token, -⟩ | ⟨function, _, _, token, -⟩ | ⟨_, token, -⟩ | ⟨leaf, -⟩
  · rw [token]
    cases op <;> rfl
  · rw [token]
    cases function <;> rfl
  · rw [token]
    rfl
  · exact opensExpression_of_leaf leaf

theorem ne_end_of_expression_gives (h : (expression context s).Gives e r) :
    s.current.token ≠ .endOfInput := by
  intro last
  have opens := opensExpression_of_gives h
  simp [last] at opens

end Stream

end ExprScript
