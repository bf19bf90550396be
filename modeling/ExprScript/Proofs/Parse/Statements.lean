import ExprScript.Proofs.Parse.Success

/-!
# When the parsers of statements succeed

What the successes of the parsers of statements and units are made of.
-/

namespace ExprScript

namespace Stream

open Parsed

/-- Statements are read one behind another. -/
inductive Sequence : Stream → List (Stmt Span) → Stream → Prop where
  | nil {s} : Sequence s [] s
  | cons {s first m others r} :
    (statement s).Gives first m → Sequence m others r → Sequence s (first :: others) r

/-- A statement is empty, a conditional, a loop, a block or an expression. -/
inductive Statement (s : Stream) : Stmt Span → Stream → Prop where
  | empty :
    s.current.token = .punctuation .semicolon →
    Statement s (.empty (s.current.span.extend s.next.last)) s.next
  | ifThen {test m yes r} :
    s.current.token = .keyword .ifWord → (condition .ifWord s.next).Gives test m →
    (statement m).Gives yes r → r.current.token ≠ .keyword .elseWord →
    Statement s (.ifThen (s.current.span.extend r.last) test yes) r
  | ifElse {test m yes m' no r} :
    s.current.token = .keyword .ifWord → (condition .ifWord s.next).Gives test m →
    (statement m).Gives yes m' → m'.current.token = .keyword .elseWord →
    (statement m'.next).Gives no r →
    Statement s (.ifElse (s.current.span.extend r.last) test yes no) r
  | loop {test m body r} :
    s.current.token = .keyword .whileWord → (condition .whileWord s.next).Gives test m →
    (statement m).Gives body r →
    Statement s (.loop (s.current.span.extend r.last) test body) r
  | block {body r} :
    s.current.token = .punctuation .leftBrace → (block s.current.span s.next).Gives body r →
    Statement s (.block (s.current.span.extend r.last) body) r
  | expr {t r} : (expressionStatement s).Gives t r → Statement s t r

variable {s r : Stream} {e : Expr Span} {t : Stmt Span} {body : List (Stmt Span)}

theorem condition_gives {keyword : Construct} :
    (condition keyword s).Gives e r ↔
      ∃ m m', Takes s [.punctuation .leftParen] m ∧ (expression .lowest m).Gives e m' ∧
        Takes m' [.punctuation .rightParen] r := by
  simp only [condition, gives_andThen, gives_done, exists_prop, expect_gives, close_gives, closing]
  grind

/-- What has to be ahead of a statement that is not ended. -/
def AtEnd (s : Stream) : Prop :=
  s.current.token = .punctuation .rightBrace ∨ s.current.token = .endOfInput

/-- An expression statement ends with a semicolon, or at the end of what it stands in. -/
theorem expressionStatement_gives :
    (expressionStatement s).Gives t r ↔
      ∃ e m, (expression .lowest s).Gives e m ∧ .expr (s.current.span.extend r.last) e = t ∧
        (Takes m [.punctuation .semicolon] r ∨ m = r ∧ AtEnd m) := by
  simp only [expressionStatement, gives_andThen]
  constructor
  · rintro ⟨e, m, first, h⟩
    split at h
    · rename_i semicolon
      obtain ⟨rfl, rfl⟩ := gives_done.1 h
      exact ⟨e, m, first, rfl, .inl (by simp [semicolon])⟩
    · split at h
      · rename_i last
        obtain ⟨rfl, rfl⟩ := gives_done.1 h
        exact ⟨e, m, first, rfl, .inr ⟨rfl, last⟩⟩
      · exact absurd h gives_failed
  · rintro ⟨e, m, first, rfl, semicolon | ⟨rfl, last⟩⟩
    · simp only [Takes.cons_iff, Takes.nil_iff] at semicolon
      obtain ⟨semicolon, -, rfl⟩ := semicolon
      exact ⟨e, m, first, by simp [semicolon]⟩
    · have open? : m.current.token ≠ .punctuation .semicolon := by
        rcases last with last | last <;> simp [last]
      unfold AtEnd at last
      exact ⟨e, m, first, by simp [open?, last]⟩

theorem conditional_gives {h : s.current.token ≠ .endOfInput} :
    (conditional s h).Gives t r ↔
      ∃ test m yes m', (condition .ifWord s.next).Gives test m ∧ (statement m).Gives yes m' ∧
        ((m'.current.token ≠ .keyword .elseWord ∧ m' = r ∧
            .ifThen (s.current.span.extend r.last) test yes = t) ∨
          m'.current.token = .keyword .elseWord ∧ ∃ no, (statement m'.next).Gives no r ∧
            .ifElse (s.current.span.extend r.last) test yes no = t) := by
  rw [conditional]
  simp only [gives_andThen]
  constructor
  · rintro ⟨test, m, first, yes, m', second, h⟩
    refine ⟨test, m, yes, m', first, second, ?_⟩
    split at h
    · rename_i other
      obtain ⟨no, r', third, h⟩ := gives_andThen.1 h
      obtain ⟨rfl, rfl⟩ := gives_done.1 h
      exact .inr ⟨other, no, third, rfl⟩
    · rename_i none
      obtain ⟨rfl, rfl⟩ := gives_done.1 h
      exact .inl ⟨none, rfl, rfl⟩
  · rintro ⟨test, m, yes, m', first, second, ⟨none, rfl, rfl⟩ | ⟨other, no, third, rfl⟩⟩
    · exact ⟨test, m, first, yes, m', second, by simp [none]⟩
    · refine ⟨test, m, first, yes, m', second, ?_⟩
      rw [dif_pos other]
      exact gives_andThen.2 ⟨no, r, third, gives_done.2 ⟨rfl, rfl⟩⟩

theorem loop_gives {h : s.current.token ≠ .endOfInput} :
    (loop s h).Gives t r ↔
      ∃ test m body, (condition .whileWord s.next).Gives test m ∧ (statement m).Gives body r ∧
        .loop (s.current.span.extend r.last) test body = t := by
  rw [loop]
  simp only [gives_andThen, gives_done, exists_prop]
  grind

theorem statement_gives : (statement s).Gives t r ↔ Statement s t r := by
  constructor
  · intro h
    rw [statement] at h
    split at h
    · rename_i token
      obtain ⟨rfl, rfl⟩ := gives_done.1 h
      exact .empty token
    · rename_i token
      obtain ⟨test, m, yes, m', first, second, ⟨none, rfl, rfl⟩ | ⟨other, no, third, rfl⟩⟩ :=
        conditional_gives.1 h
      · exact .ifThen token first second none
      · exact .ifElse token first second other third
    · rename_i token
      obtain ⟨test, m, body, first, second, rfl⟩ := loop_gives.1 h
      exact .loop token first second
    · rename_i token
      obtain ⟨body, r', first, h⟩ := gives_andThen.1 h
      obtain ⟨rfl, rfl⟩ := gives_done.1 h
      exact .block token first
    · exact .expr h
  · intro h
    rw [statement]
    cases h with
    | empty token => split <;> simp_all
    | ifThen token first second none =>
      split
      case h_2 =>
        exact conditional_gives.2 ⟨_, _, _, _, first, second, .inl ⟨none, rfl, rfl⟩⟩
      all_goals simp_all
    | ifElse token first second other third =>
      split
      case h_2 =>
        exact conditional_gives.2 ⟨_, _, _, _, first, second, .inr ⟨other, _, third, rfl⟩⟩
      all_goals simp_all
    | loop token first second =>
      split
      case h_3 => exact loop_gives.2 ⟨_, _, _, first, second, rfl⟩
      all_goals simp_all
    | block token first =>
      split
      case h_4 => exact gives_andThen.2 ⟨_, _, first, gives_done.2 ⟨rfl, rfl⟩⟩
      all_goals simp_all
    | expr h =>
      obtain ⟨e, m, first, -⟩ := expressionStatement_gives.1 h
      have opens := opensExpression_of_gives first
      split <;> simp_all

/-- A statement starts neither with `else` nor where a sequence of statements ends. -/
theorem opens_of_statement_gives (h : (statement s).Gives t r) :
    s.current.token ≠ .keyword .elseWord ∧ ¬ AtEnd s := by
  cases statement_gives.1 h with
  | empty token | ifThen token | ifElse token | loop token | block token =>
    simp [AtEnd, token]
  | expr h =>
    obtain ⟨e, m, first, -⟩ := expressionStatement_gives.1 h
    have opens := opensExpression_of_gives first
    constructor
    · intro other
      simp [other] at opens
    · rintro (last | last) <;> simp [last] at opens

theorem block_step {opened : Span} :
    (block opened s).Gives body r ↔
      (Takes s [.punctuation .rightBrace] r ∧ body = []) ∨
      ∃ first others m, (statement s).Gives first m ∧ (block opened m).Gives others r ∧
        body = first :: others := by
  rw [block]
  constructor
  · intro h
    split at h
    · obtain ⟨_, _, closed, h⟩ := gives_andThen.1 h
      obtain ⟨rfl, rfl⟩ := gives_done.1 h
      exact .inl ⟨close_gives.1 closed, rfl⟩
    · obtain ⟨first, m, found, h⟩ := gives_andThen.1 h
      obtain ⟨others, r', more, h⟩ := gives_andThen.1 h
      obtain ⟨rfl, rfl⟩ := gives_done.1 h
      exact .inr ⟨first, others, m, found, more, rfl⟩
  · rintro (⟨closed, rfl⟩ | ⟨first, others, m, found, more, rfl⟩)
    · rw [if_pos (.inl (Takes.cons_iff.1 closed).1)]
      exact gives_andThen.2 ⟨(), r, close_gives.2 closed, gives_done.2 ⟨rfl, rfl⟩⟩
    · have goes_on := (opens_of_statement_gives found).2
      unfold AtEnd at goes_on
      rw [if_neg goes_on]
      exact gives_andThen.2 ⟨first, m, found, gives_andThen.2 ⟨others, r, more,
        gives_done.2 ⟨rfl, rfl⟩⟩⟩

theorem block_gives {opened : Span} :
    (block opened s).Gives body r ↔
      ∃ m, Sequence s body m ∧ Takes m [.punctuation .rightBrace] r := by
  constructor
  · intro h
    induction body generalizing s with
    | nil =>
      rcases block_step.1 h with ⟨closed, -⟩ | ⟨_, _, _, _, _, none⟩
      · exact ⟨s, .nil, closed⟩
      · cases none
    | cons first others ih =>
      rcases block_step.1 h with ⟨-, none⟩ | ⟨_, _, m, found, more, same⟩
      · cases none
      · cases same
        obtain ⟨k, sequence, closed⟩ := ih more
        exact ⟨k, .cons found sequence, closed⟩
  · rintro ⟨m, sequence, closed⟩
    induction sequence with
    | nil => exact block_step.2 (.inl ⟨closed, rfl⟩)
    | cons found _ ih => exact block_step.2 (.inr ⟨_, _, _, found, ih closed, rfl⟩)

theorem script_step :
    (script s).Gives body r ↔
      (s.current.token = .endOfInput ∧ body = [] ∧ s = r) ∨
      ∃ first others m, (statement s).Gives first m ∧ (script m).Gives others r ∧
        body = first :: others := by
  rw [script]
  constructor
  · intro h
    split at h
    · rename_i last
      obtain ⟨rfl, rfl⟩ := gives_done.1 h
      exact .inl ⟨last, rfl, rfl⟩
    · obtain ⟨first, m, found, h⟩ := gives_andThen.1 h
      obtain ⟨others, r', more, h⟩ := gives_andThen.1 h
      obtain ⟨rfl, rfl⟩ := gives_done.1 h
      exact .inr ⟨first, others, m, found, more, rfl⟩
  · rintro (⟨last, rfl, rfl⟩ | ⟨first, others, m, found, more, rfl⟩)
    · rw [if_pos last]
      exact gives_done.2 ⟨rfl, rfl⟩
    · rw [if_neg fun last => (opens_of_statement_gives found).2 (.inr last)]
      exact gives_andThen.2 ⟨first, m, found, gives_andThen.2 ⟨others, r, more,
        gives_done.2 ⟨rfl, rfl⟩⟩⟩

theorem script_gives :
    (script s).Gives body r ↔ Sequence s body r ∧ r.current.token = .endOfInput := by
  constructor
  · intro h
    induction body generalizing s with
    | nil =>
      rcases script_step.1 h with ⟨last, -, rfl⟩ | ⟨_, _, _, _, _, none⟩
      · exact ⟨.nil, last⟩
      · cases none
    | cons first others ih =>
      rcases script_step.1 h with ⟨_, none, -⟩ | ⟨_, _, m, found, more, same⟩
      · cases none
      · cases same
        obtain ⟨sequence, last⟩ := ih more
        exact ⟨.cons found sequence, last⟩
  · rintro ⟨sequence, last⟩
    induction sequence with
    | nil => exact script_step.2 (.inl ⟨last, rfl, rfl⟩)
    | cons found _ ih => exact script_step.2 (.inr ⟨_, _, _, found, ih last, rfl⟩)

/-- A unit of one expression takes all tokens, a semicolon behind the expression included. -/
theorem unit_expression {tree : Tree Span} :
    (unit .expression s).Gives tree r ↔
      ∃ e m, (expression .lowest s).Gives e m ∧ .expression e = tree ∧
        (Takes m [.punctuation .semicolon] r ∨ m = r) ∧ r.current.token = .endOfInput := by
  simp only [unit, gives_andThen]
  constructor
  · rintro ⟨e, m, first, h⟩
    split at h
    · rename_i last
      obtain ⟨rfl, rfl⟩ := gives_done.1 h
      refine ⟨e, m, first, rfl, ?_, last⟩
      unfold skipSemicolon
      split
      · rename_i semicolon
        exact .inl (by simp [semicolon])
      · exact .inr rfl
    · exact absurd h gives_failed
  · rintro ⟨e, m, first, rfl, taken, last⟩
    obtain rfl : m.skipSemicolon = r := by
      unfold skipSemicolon
      rcases taken with semicolon | rfl
      · rw [if_pos (Takes.cons_iff.1 semicolon).1]
        simpa using (Takes.cons_iff.1 semicolon).2.2
      · rw [if_neg (by simp [last])]
    exact ⟨e, m, first, by rw [if_pos last]; exact gives_done.2 ⟨rfl, rfl⟩⟩

theorem unit_script {tree : Tree Span} :
    (unit .script s).Gives tree r ↔ ∃ body, (script s).Gives body r ∧ .script body = tree := by
  simp only [unit, gives_andThen, gives_done, exists_prop]
  grind

end Stream

end ExprScript
