import ExprScript.Proofs.Grammar.Completeness
import ExprScript.Proofs.Parse.Statements

/-!
# Statements and units in the grammar

The parser accepts the statements of the grammar and no others. A statement may only be cut off
where what is ahead lets it end: one that is not ended ends at a closing brace or at the end of the
input, and one that could take an `else` has none ahead.
-/

namespace ExprScript

open Grammar

namespace Stream

variable {s r : Stream} {e : Expr Span} {t : Stmt Span} {body : List (Stmt Span)}
  {ended : Bool} {word : List Token} {d : Stmt Parens} {keyword : Construct}

/-- A statement of the grammar ends before a stream. -/
def EndsAt (ended : Bool) (d : Stmt Parens) (r : Stream) : Prop :=
  (ended = false → AtEnd r) ∧ (d.takesElse = true → r.current.token ≠ .keyword .elseWord)

theorem condition_sound (h : (condition keyword s).Gives e r) :
    ∃ word d, Takes s (mark .leftParen :: word ++ [mark .rightParen]) r ∧
      Phrase .assignment word d ∧ d.shape = e.shape := by
  obtain ⟨m, m', opened, found, closed⟩ := condition_gives.1 h
  obtain ⟨⟨word, d, taken, phrase, shape⟩, -⟩ := expression_sound m _ _ _ found
  have all := Takes.append_iff.2 ⟨m, opened, Takes.append_iff.2 ⟨m', taken, closed⟩⟩
  exact ⟨word, d, by simpa using all, phrase, shape⟩

/-- A keyword and a condition are read in front of what they are about. -/
theorem condition_complete {d : Expr Parens} {token : Token} {rest : List Token}
    (phrase : Phrase .assignment word d)
    (taken : Takes s (token :: mark .leftParen :: (word ++ mark .rightParen :: rest)) r) :
    s.current.token = token ∧
      ∃ e m, (condition keyword s.next).Gives e m ∧ d.shape = e.shape ∧ Takes m rest r := by
  simp only [Takes.cons_iff, Takes.append_iff] at taken
  obtain ⟨first, -, opened, -, m, taken, closed, -, others⟩ := taken
  obtain ⟨e, found, shape⟩ := (readBack word).yields_of_none phrase taken
    (by simp [closed, Connective.ofToken?])
  have opening : Takes s.next [.punctuation .leftParen] s.next.next := by simp [opened]
  have closing : Takes m [.punctuation .rightParen] m.next := by simp [closed]
  exact ⟨first, e, m.next, condition_gives.2 ⟨_, m, opening, found, closing⟩, shape, others⟩

/-- Every success of the statement parser at a stream is in the grammar. -/
def StatementSoundAt (s : Stream) : Prop :=
  ∀ t r, (statement s).Gives t r →
    ∃ ended word d, Takes s word r ∧ Sentence ended word d ∧ d.shape = t.shape ∧ EndsAt ended d r

theorem sequence_sound {s r : Stream} {body : List (Stmt Span)}
    (each : ∀ m : Stream, m.size ≤ s.size → StatementSoundAt m) (h : Sequence s body r) :
    ∃ parts : List Part, Takes s (parts.flatMap Part.words) r ∧
      (∀ p ∈ parts, Sentence p.ended p.words p.tree) ∧ parts.Pairwise (fun p _ => p.ended) ∧
      parts.map (fun p => p.tree.shape) = body.map Stmt.shape := by
  induction h with
  | nil => exact ⟨[], .nil, by simp, .nil, rfl⟩
  | @cons s first m others r found more ih =>
    have fewer := found.fewer
    obtain ⟨ended, word, d, taken, sentence, shape, ends⟩ := each s (Nat.le_refl _) _ _ found
    obtain ⟨parts, taken', sentences, pairwise, shapes⟩ :=
      ih fun k le => each k (Nat.le_trans le (Nat.le_of_lt fewer))
    refine ⟨⟨ended, word, d⟩ :: parts, ?_, ?_, ?_, ?_⟩
    · exact Takes.append_iff.2 ⟨m, taken, taken'⟩
    · exact List.forall_mem_cons.2 ⟨sentence, sentences⟩
    · refine List.pairwise_cons.2 ⟨fun p listed => ?_, pairwise⟩
      cases more with
      | nil =>
        obtain rfl : parts = [] := by simpa using shapes
        cases listed
      | cons second _ =>
        cases ended with
        | true => rfl
        | false => exact absurd (ends.1 rfl) (opens_of_statement_gives second).2
    · simp [shape, shapes]

theorem statement_sound (s : Stream) : StatementSoundAt s := by
  intro t r found
  have below : ∀ m : Stream, m.size < s.size → StatementSoundAt m := fun m _ => statement_sound m
  cases statement_gives.1 found with
  | empty token =>
    exact ⟨true, _, _, Takes.cons_iff.2 ⟨token, by simp, .nil⟩, .empty, rfl, by simp, by
      simp [Stmt.takesElse]⟩
  | ifThen token first second none =>
    have passed := size_next_lt (current_ne_end token (by simp))
    obtain ⟨test, condition, taken, phrase, shape⟩ := condition_sound first
    obtain ⟨ended, inside, yes, taken', sentence, shape', ends⟩ :=
      below _ (Nat.lt_trans first.fewer passed) _ _ second
    have all := Takes.cons_iff.2 ⟨token, by simp, Takes.append_iff.2 ⟨_, taken, taken'⟩⟩
    exact ⟨ended, _, _, by simpa using all, .ifThen phrase sentence, by simp [shape, shape'],
      ends.1, fun _ => none⟩
  | ifElse token first second other third =>
    have passed := Nat.lt_trans first.fewer (size_next_lt (current_ne_end token (by simp)))
    have passed' := Nat.lt_trans (size_next_lt (current_ne_end other (by simp)))
      (Nat.lt_trans second.fewer passed)
    obtain ⟨test, condition, taken, phrase, shape⟩ := condition_sound first
    obtain ⟨closed, inside, yes, taken', sentence, shape', ends⟩ := below _ passed _ _ second
    obtain ⟨ended, inside', no, taken'', sentence', shape'', ends'⟩ := below _ passed' _ _ third
    obtain rfl : closed = true := by
      cases closed with
      | true => rfl
      | false => simpa [AtEnd, other] using ends.1 rfl
    have nearest : yes.takesElse = false := by
      cases open? : yes.takesElse with
      | true => exact absurd other (ends.2 open?)
      | false => rfl
    have all := Takes.cons_iff.2 ⟨token, by simp, Takes.append_iff.2 ⟨_, taken,
      Takes.append_iff.2 ⟨_, taken', Takes.cons_iff.2 ⟨other, by simp, taken''⟩⟩⟩⟩
    exact ⟨ended, _, _, by simpa using all, .ifElse phrase sentence nearest sentence',
      by simp [shape, shape', shape''], ends'⟩
  | loop token first second =>
    have passed := size_next_lt (current_ne_end token (by simp))
    obtain ⟨test, condition, taken, phrase, shape⟩ := condition_sound first
    obtain ⟨ended, inside, body, taken', sentence, shape', ends⟩ :=
      below _ (Nat.lt_trans first.fewer passed) _ _ second
    have all := Takes.cons_iff.2 ⟨token, by simp, Takes.append_iff.2 ⟨_, taken, taken'⟩⟩
    exact ⟨ended, _, _, by simpa using all, .loop phrase sentence, by simp [shape, shape'], ends⟩
  | block token inner =>
    have passed := size_next_lt (current_ne_end token (by simp))
    obtain ⟨m, sequence, closed⟩ := block_gives.1 inner
    obtain ⟨parts, taken, sentences, pairwise, shapes⟩ :=
      sequence_sound (fun k le => below k (Nat.lt_of_le_of_lt le passed)) sequence
    have all := Takes.cons_iff.2 ⟨token, by simp, Takes.append_iff.2 ⟨m, taken, closed⟩⟩
    exact ⟨true, _, _, by simpa using all, .block parts sentences pairwise,
      by simp [← shapes, Function.comp_def], by simp, by simp [Stmt.takesElse]⟩
  | expr inner =>
    obtain ⟨e, m, first, rfl, taken'⟩ := expressionStatement_gives.1 inner
    obtain ⟨⟨word, d, taken, phrase, shape⟩, -⟩ := expression_sound s _ _ _ first
    rcases taken' with semicolon | ⟨rfl, last⟩
    · exact ⟨true, _, _, Takes.append_iff.2 ⟨m, taken, semicolon⟩, .expr phrase, by simp [shape],
        by simp, by simp [Stmt.takesElse]⟩
    · exact ⟨false, _, _, taken, .unended phrase, by simp [shape], fun _ => last,
        by simp [Stmt.takesElse]⟩
termination_by s.size

/-- What is ahead of a statement is the end or another statement, which is no `else`. -/
theorem Sequence.endsAt {m : Stream} {p : Part} (more : Sequence m body r) (last : AtEnd r)
    (ended : body ≠ [] → p.ended = true) : EndsAt p.ended p.tree m := by
  cases more with
  | nil =>
    refine ⟨fun _ => last, fun _ other => ?_⟩
    simp [AtEnd, other] at last
  | cons second _ =>
    have := ended (by simp)
    exact ⟨by simp [this], fun _ => (opens_of_statement_gives second).1⟩

theorem sequence_complete {parts : List Part} {s : Stream}
    (each : ∀ p ∈ parts, ∀ s r, Takes s p.words r → EndsAt p.ended p.tree r →
      ∃ t, (statement s).Gives t r ∧ p.tree.shape = t.shape)
    (pairwise : parts.Pairwise (fun p _ => p.ended)) (last : AtEnd r)
    (taken : Takes s (parts.flatMap Part.words) r) :
    ∃ body, Sequence s body r ∧ parts.map (fun p => p.tree.shape) = body.map Stmt.shape := by
  induction parts generalizing s with
  | nil =>
    obtain rfl : s = r := by simpa using taken
    exact ⟨[], .nil, rfl⟩
  | cons p rest ih =>
    obtain ⟨here, later⟩ := List.forall_mem_cons.1 each
    obtain ⟨ended, pairwise⟩ := List.pairwise_cons.1 pairwise
    obtain ⟨m, first, others⟩ := Takes.append_iff.1 (List.flatMap_cons ▸ taken)
    obtain ⟨body, more, shapes⟩ := ih later pairwise others
    have followed : body ≠ [] → p.ended = true := by
      intro others
      cases rest with
      | nil => simp_all
      | cons q _ => exact ended q (by simp)
    obtain ⟨t, found, shape⟩ := here _ _ first (more.endsAt last followed)
    exact ⟨t :: body, .cons found more, by simp [shape, shapes]⟩

theorem statement_complete (h : Sentence ended word d) {s r : Stream} (taken : Takes s word r)
    (ends : EndsAt ended d r) : ∃ t, (statement s).Gives t r ∧ d.shape = t.shape := by
  induction h generalizing s r with
  | @expr word e phrase =>
    obtain ⟨m, taken, semicolon⟩ := Takes.append_iff.1 taken
    obtain ⟨e', found, shape⟩ := (readBack word).yields_of_none phrase taken
      (by simp [(Takes.cons_iff.1 semicolon).1, Connective.ofToken?])
    have read := expressionStatement_gives.2 ⟨e', m, found, rfl, .inl semicolon⟩
    exact ⟨_, statement_gives.2 (.expr read), by simp [shape]⟩
  | @unended word e phrase =>
    have last := ends.1 rfl
    obtain ⟨e', found, shape⟩ := (readBack word).yields_of_none phrase taken (by
      rcases last with last | last <;> simp [last, Connective.ofToken?])
    have read := expressionStatement_gives.2 ⟨e', r, found, rfl, .inr ⟨rfl, last⟩⟩
    exact ⟨_, statement_gives.2 (.expr read), by simp [shape]⟩
  | block parts sentences pairwise ih =>
    simp only [List.cons_append, Takes.cons_iff, Takes.append_iff] at taken
    obtain ⟨token, -, m, taken, closed⟩ := taken
    obtain ⟨body, sequence, shapes⟩ := sequence_complete
      (fun p listed s r taken ends => ih p listed taken ends) pairwise (.inl closed.1) taken
    have read : (Stream.block s.current.span s.next).Gives body r :=
      block_gives.2 ⟨m, sequence, Takes.cons_iff.2 closed⟩
    exact ⟨_, statement_gives.2 (.block token read), by simp [← shapes, Function.comp_def]⟩
  | ifThen phrase sentence ih =>
    simp only [List.cons_append] at taken
    obtain ⟨token, e, m, first, shape, inner⟩ := condition_complete phrase taken
    have none := ends.2 rfl
    obtain ⟨t, second, shape'⟩ := ih inner ⟨ends.1, fun _ => none⟩
    exact ⟨_, statement_gives.2 (.ifThen token first second none), by simp [shape, shape']⟩
  | @ifElse ended test condition inside yes inside' no phrase sentence nearest other ihYes ihNo =>
    simp only [List.cons_append, List.append_assoc] at taken
    obtain ⟨token, e, m, first, shape, inner⟩ := condition_complete phrase taken
    obtain ⟨m', inner, otherwise, -, inner'⟩ := by
      simpa only [Takes.append_iff, Takes.cons_iff] using inner
    obtain ⟨t, second, shape'⟩ := ihYes inner ⟨by simp, by simp [nearest]⟩
    obtain ⟨t', third, shape''⟩ := ihNo inner' ends
    exact ⟨_, statement_gives.2 (.ifElse token first second otherwise third),
      by simp [shape, shape', shape'']⟩
  | loop phrase sentence ih =>
    simp only [List.cons_append] at taken
    obtain ⟨token, e, m, first, shape, inner⟩ := condition_complete phrase taken
    obtain ⟨t, second, shape'⟩ := ih inner ends
    exact ⟨_, statement_gives.2 (.loop token first second), by simp [shape, shape']⟩
  | empty =>
    obtain ⟨token, rfl⟩ : s.current.token = mark .semicolon ∧ s.next = r := by simpa using taken
    exact ⟨_, statement_gives.2 (.empty token), rfl⟩

/-- A unit is made of all the words of a stream. -/
theorem unit_sound {mode : Mode} {tree : Tree Span} (h : (unit mode s).Gives tree r) :
    ∃ d, Whole mode s.words d ∧ d.shape = tree.shape := by
  cases mode with
  | expression =>
    obtain ⟨e, m, found, rfl, behind, last⟩ := unit_expression.1 h
    obtain ⟨⟨word, d, taken, phrase, shape⟩, -⟩ := expression_sound s _ _ _ found
    rw [taken.words_eq]
    rcases behind with semicolon | rfl
    · rw [semicolon.words_eq, words_of_end last]
      exact ⟨_, .endedExpression phrase, by simp [shape]⟩
    · rw [words_of_end last, List.append_nil]
      exact ⟨_, .expression phrase, by simp [shape]⟩
  | script =>
    obtain ⟨body, found, rfl⟩ := unit_script.1 h
    obtain ⟨sequence, last⟩ := script_gives.1 found
    obtain ⟨parts, taken, sentences, pairwise, shapes⟩ :=
      sequence_sound (fun m _ => statement_sound m) sequence
    rw [taken.words_eq, words_of_end last, List.append_nil]
    exact ⟨_, .script parts sentences pairwise, by simp [← shapes, Function.comp_def]⟩

theorem unit_complete {mode : Mode} {d : Tree Parens} (h : Whole mode s.words d) :
    ∃ tree r, (unit mode s).Gives tree r ∧ d.shape = tree.shape := by
  obtain ⟨r, taken, last⟩ := Takes.all s
  have ends : Connective.ofToken? r.current.token = none := by simp [last, Connective.ofToken?]
  generalize s.words = all at h taken
  cases h with
  | @expression _ e phrase =>
    obtain ⟨e', found, shape⟩ := (readBack all).yields_of_none phrase taken ends
    exact ⟨_, r, unit_expression.2 ⟨e', r, found, rfl, .inr rfl, last⟩, by simp [shape]⟩
  | @endedExpression word e phrase =>
    obtain ⟨m, taken, semicolon⟩ := Takes.append_iff.1 taken
    obtain ⟨e', found, shape⟩ := (readBack word).yields_of_none phrase taken
      (by simp [(Takes.cons_iff.1 semicolon).1, Connective.ofToken?])
    exact ⟨_, r, unit_expression.2 ⟨e', m, found, rfl, .inl semicolon, last⟩, by simp [shape]⟩
  | script parts sentences pairwise =>
    obtain ⟨body, sequence, shapes⟩ := sequence_complete
      (fun p listed s r taken ends => statement_complete (sentences p listed) taken ends)
      pairwise (.inr last) taken
    exact ⟨_, r, unit_script.2 ⟨body, script_gives.2 ⟨sequence, last⟩, rfl⟩,
      by simp [← shapes, Function.comp_def]⟩

end Stream

end ExprScript
