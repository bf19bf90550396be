import ExprScript.Proofs.Grammar.Statements
import ExprScript.Proofs.Parse.Continuing

/-!
# Statements before a semicolon

The statements of a stream are read as well when a semicolon stands in the place of the end of the
input. The last one takes the semicolon when it had no end of its own, and then its span reaches to
it; otherwise the semicolon is left ahead.
-/

namespace ExprScript

/-- The statement with a semicolon that ends it. -/
def Stmt.terminated (semicolon : Span) : Stmt Span → Stmt Span
  | .expr span body => .expr (span.extend semicolon) body
  | .ifThen span condition yes =>
    .ifThen (span.extend semicolon) condition (yes.terminated semicolon)
  | .ifElse span condition yes no =>
    .ifElse (span.extend semicolon) condition yes (no.terminated semicolon)
  | .loop span condition body => .loop (span.extend semicolon) condition (body.terminated semicolon)
  | .block span body => .block span body
  | .empty span => .empty span

/-- A statement that a semicolon can end: its last part is an expression. -/
def Stmt.takesSemicolon : Stmt Span → Bool
  | .expr .. => true
  | .ifThen _ _ yes => yes.takesSemicolon
  | .ifElse _ _ _ no => no.takesSemicolon
  | .loop _ _ body => body.takesSemicolon
  | .block .. | .empty _ => false

namespace Stream

variable (k : Continuation) {s r m : Stream} {word : List Token} {t : Stmt Span}

/-- What stands before the end of the input in a stream starts before the semicolon and ends before
its end, so that the least span which covers a part of it and the semicolon is found from the start
of the part alone. -/
def Covers (s : Stream) : Prop :=
  ∀ z later, k.tail = ⟨.punctuation .semicolon, z⟩ :: later →
    ∀ word m word' r, Takes s word m → Takes m word' r → word' ≠ [] →
      ((k.move m.current.span).extend (k.move r.last)).extend z = (k.move m.current.span).extend z

variable {k}

theorem Covers.takes (h : Covers k s) (taken : Takes s word m) : Covers k m :=
  fun z later tail word' m' word'' r taken' =>
    h z later tail (word ++ word') m' word'' r (Takes.append_iff.2 ⟨m, taken, taken'⟩)

/-- The least span from the start of a part up to the semicolon covers the part. -/
theorem Covers.extend (h : Covers k s) {z : Span} {later : List SpannedToken}
    (tail : k.tail = ⟨.punctuation .semicolon, z⟩ :: later) (taken : Takes s word r)
    (fewer : r.size < s.size) :
    (k.move (s.current.span.extend r.last)).extend z = (s.continued k).current.span.extend z := by
  have whole := h z later tail [] s word r .nil taken
  cases taken with
  | nil => exact absurd fewer (Nat.lt_irrefl _)
  | cons inside _ =>
    rw [continued_current k inside, k.move_extend]
    exact whole (List.cons_ne_nil _ _)

/-- A statement is read with its spans moved, or it is the last one and takes the semicolon. -/
inductive Ends (k : Continuation) (t : Stmt Span) (r : Stream) : Stmt Span → Stream → Prop where
  | kept : Ends k t r (t.map k.move) (r.continued k)
  | closed {z : Span} {later : List SpannedToken} (last : r.current.token = .endOfInput)
      (tail : k.tail = ⟨.punctuation .semicolon, z⟩ :: later) (takes : t.takesSemicolon = true) :
      Ends k t r ((t.map k.move).terminated z) ⟨later, z⟩

/-- At the seam there is another end, or a semicolon and what comes later. -/
theorem seam_cases (last : r.current.token = .endOfInput) :
    (r.continued k).current.token = .endOfInput ∨ ∃ z later,
      k.tail = ⟨.punctuation .semicolon, z⟩ :: later ∧
      Takes (r.continued k) [.punctuation .semicolon] ⟨later, z⟩ := by
  have rest := continued_of_end k last
  have closes := k.closes
  cases tail : k.tail with
  | nil => exact .inl (by simp [current, rest, tail])
  | cons t later =>
    obtain ⟨token, z⟩ := t
    rw [tail] at rest closes
    rcases closes _ rfl with ended | semicolon
    · exact .inl (by simpa [current, rest] using ended)
    · obtain rfl : token = .punctuation .semicolon := semicolon
      exact .inr ⟨z, later, rfl, by simp [current, next, rest]⟩

theorem continued_ne_else (h : r.current.token ≠ .keyword .elseWord) :
    (r.continued k).current.token ≠ .keyword .elseWord := by
  by_cases last : r.current.token = .endOfInput
  · rcases seam_cases (k := k) last with ended | ⟨z, later, -, taken⟩
    · simp [ended]
    · simp [(Takes.cons_iff.1 taken).1]
  · rwa [continued_current k last]

theorem later_ne_else {z last : Span} {later : List SpannedToken}
    (tail : k.tail = ⟨.punctuation .semicolon, z⟩ :: later) :
    (⟨later, last⟩ : Stream).current.token ≠ .keyword .elseWord := by
  have noElse := k.noElse
  rw [tail] at noElse
  cases later with
  | nil => simp [current]
  | cons t later => exact noElse t rfl

theorem condition_continued {keyword : Construct} {e : Expr Span}
    (h : (condition keyword s).Gives e r) :
    (condition keyword (s.continued k)).Gives (e.map k.move) (r.continued k) := by
  obtain ⟨m, m', opened, found, closed⟩ := condition_gives.1 h
  exact condition_gives.2
    ⟨_, _, opened.continued k, expression_continued m _ _ _ found, closed.continued k⟩

/-- Spans from the first token of a part to the last one taken move with both. -/
theorem span_continued (inside : s.current.token ≠ .endOfInput) :
    (s.continued k).current.span.extend (r.continued k).last =
      k.move (s.current.span.extend r.last) := by
  rw [continued_current k inside]
  exact extend_continued

theorem Ends.ne_else {t' : Stmt Span} {r' : Stream} (ends : Ends k t r t' r')
    (h : r.current.token ≠ .keyword .elseWord) : r'.current.token ≠ .keyword .elseWord := by
  cases ends with
  | kept => exact continued_ne_else h
  | closed last tail takes => exact later_ne_else tail

/-- A statement that ends with another one ends as this one does. -/
theorem Ends.last {t' : Stmt Span} {r' : Stream} (ends : Ends k t r t' r')
    (make make' : Span → Stmt Span → Stmt Span)
    (moves : ∀ span t, (make span t).map k.move = make' (k.move span) (t.map k.move))
    (grows : ∀ span t z, (make' span t).terminated z = make' (span.extend z) (t.terminated z))
    (takes : ∀ span t, (make span t).takesSemicolon = t.takesSemicolon) (covers : Covers k s)
    (inside : s.current.token ≠ .endOfInput) (whole : Takes s word r) (fewer : r.size < s.size) :
    Ends k (make (s.current.span.extend r.last) t) r
      (make' ((s.continued k).current.span.extend r'.last) t') r' := by
  cases ends with
  | kept =>
    rw [span_continued inside, ← moves]
    exact .kept
  | closed last tail takes' =>
    rw [← covers.extend tail whole fewer, ← grows, ← moves]
    exact .closed last tail ((takes _ _).trans takes')

/-- An expression statement takes a semicolon in the place of the end of the input. -/
theorem expressionStatement_continued (covers : Covers k s)
    (h : (expressionStatement s).Gives t r) :
    ∃ t' r', (expressionStatement (s.continued k)).Gives t' r' ∧ Ends k t r t' r' := by
  obtain ⟨e, m, first, rfl, ended⟩ := expressionStatement_gives.1 h
  have first' := expression_continued (k := k) s _ _ _ first
  have inside := ne_end_of_expression_gives first
  have kept : Stmt.expr ((s.continued k).current.span.extend (r.continued k).last) (e.map k.move) =
      (Stmt.expr (s.current.span.extend r.last) e).map k.move := by
    rw [span_continued inside]
    rfl
  rcases ended with semicolon | ⟨rfl, last⟩
  · exact ⟨_, _, expressionStatement_gives.2 ⟨_, _, first', kept, .inl (semicolon.continued k)⟩,
      .kept⟩
  · rcases last with brace | last
    · have brace' := continued_token k brace (by simp)
      exact ⟨_, _, expressionStatement_gives.2 ⟨_, _, first', kept, .inr ⟨rfl, .inl brace'⟩⟩, .kept⟩
    · rcases seam_cases (k := k) last with last' | ⟨z, later, tail, semicolon⟩
      · exact ⟨_, _, expressionStatement_gives.2 ⟨_, _, first', kept, .inr ⟨rfl, .inr last'⟩⟩,
          .kept⟩
      · obtain ⟨⟨word, d, taken, -⟩, -⟩ := expression_sound s _ _ _ first
        have closed := covers.extend tail taken first.fewer
        exact ⟨_, _, expressionStatement_gives.2
          ⟨_, _, first', congrArg (Stmt.expr · _) closed.symm, .inl semicolon⟩,
            .closed last tail rfl⟩

/-! ### Statements -/

/-- Whatever a statement is read of, it is read of as well when the stream goes on. -/
def StatementContinuesAt (k : Continuation) (s : Stream) : Prop :=
  Covers k s → ∀ t r, (statement s).Gives t r →
    ∃ t' r', (statement (s.continued k)).Gives t' r' ∧ Ends k t r t' r'

/-- Statements are read with their spans moved, or the last one takes the semicolon. -/
inductive SequenceEnds (k : Continuation) (body : List (Stmt Span)) (r : Stream) :
    List (Stmt Span) → Stream → Prop where
  | kept : SequenceEnds k body r (body.map (Stmt.map k.move)) (r.continued k)
  | closed (front : List (Stmt Span)) {t : Stmt Span} {z : Span} {later : List SpannedToken}
      (last : r.current.token = .endOfInput)
      (tail : k.tail = ⟨.punctuation .semicolon, z⟩ :: later) (takes : t.takesSemicolon = true)
      (split : body = front ++ [t]) :
      SequenceEnds k body r
        (front.map (Stmt.map k.move) ++ [(t.map k.move).terminated z]) ⟨later, z⟩

theorem sequence_continued {s r : Stream} {body : List (Stmt Span)} (covers : Covers k s)
    (each : ∀ m : Stream, m.size ≤ s.size → StatementContinuesAt k m) (h : Sequence s body r) :
    ∃ body' r', Sequence (s.continued k) body' r' ∧ SequenceEnds k body r body' r' := by
  induction h with
  | nil => exact ⟨_, _, .nil, .kept⟩
  | @cons s first m others r found more ih =>
    obtain ⟨ended, word, d, taken, -⟩ := statement_sound s _ _ found
    obtain ⟨first', m', found', ends⟩ := each s (Nat.le_refl _) covers _ _ found
    obtain ⟨others', r', more', rest⟩ := ih (covers.takes taken)
      fun j le => each j (Nat.le_trans le (Nat.le_of_lt found.fewer))
    cases ends with
    | kept =>
      cases rest with
      | kept => exact ⟨_, _, .cons found' more', .kept⟩
      | closed front last tail takes split =>
        subst split
        exact ⟨_, _, .cons found' more', .closed (first :: _) last tail takes rfl⟩
    | closed last tail takes =>
      -- nothing is read behind the end of the input
      cases more with
      | nil => exact ⟨_, _, .cons found' .nil, .closed [] last tail takes rfl⟩
      | cons second _ => exact absurd (.inr last) (opens_of_statement_gives second).2

theorem statement_continued (s : Stream) : StatementContinuesAt k s := by
  intro covers t r found
  have below : ∀ m : Stream, m.size < s.size → StatementContinuesAt k m :=
    fun m _ => statement_continued m
  obtain ⟨_, _, _, whole, -⟩ := statement_sound s _ _ found
  cases statement_gives.1 found with
  | empty token =>
    have inside := current_ne_end token (by simp)
    refine ⟨_, _, statement_gives.2 (.empty (continued_token k token (by simp))), ?_⟩
    rw [continued_next k inside, span_continued inside]
    exact .kept
  | @ifThen test m yes r token first second none =>
    have inside := current_ne_end token (by simp)
    obtain ⟨condition, d, passed, -⟩ := condition_sound first
    have before := Takes.cons_iff.2 ⟨token, by simp, passed⟩
    obtain ⟨yes', r', given, ends⟩ := below m (Nat.lt_trans first.fewer (size_next_lt inside))
      (covers.takes before) _ _ second
    have token' := continued_token k token (by simp)
    have first' := continued_next k inside ▸ condition_continued (k := k) first
    have ends' := ends.last (.ifThen · test ·) (.ifThen · (test.map k.move) ·) (fun _ _ => rfl)
      (fun _ _ _ => rfl) (fun _ _ => rfl) covers inside whole found.fewer
    exact ⟨_, _, statement_gives.2 (.ifThen token' first' given (ends.ne_else none)), ends'⟩
  | @ifElse test m yes m' no r token first second other third =>
    have inside := current_ne_end token (by simp)
    have inside' := current_ne_end other (by simp)
    obtain ⟨condition, d, passed, -⟩ := condition_sound first
    have before := Takes.cons_iff.2 ⟨token, by simp, passed⟩
    obtain ⟨ended, branch, d', passed', -⟩ := statement_sound m _ _ second
    have between := Takes.append_iff.2 ⟨_, passed', Takes.cons_iff.2 ⟨other, by simp, .nil⟩⟩
    have shorter := Nat.lt_trans first.fewer (size_next_lt inside)
    obtain ⟨yes', k', given, ends⟩ := below m shorter (covers.takes before) _ _ second
    obtain ⟨no', r', given', ends'⟩ :=
      below _ (Nat.lt_trans (size_next_lt inside') (Nat.lt_trans second.fewer shorter))
        ((covers.takes before).takes between) _ _ third
    have token' := continued_token k token (by simp)
    have first' := continued_next k inside ▸ condition_continued (k := k) first
    cases ends with
    | closed last => exact absurd last inside'
    | kept =>
      have other' := continued_token k other (by simp)
      rw [← continued_next k inside'] at given'
      have ends'' := ends'.last (.ifElse · test yes ·)
        (.ifElse · (test.map k.move) (yes.map k.move) ·) (fun _ _ => rfl) (fun _ _ _ => rfl)
        (fun _ _ => rfl) covers inside whole found.fewer
      exact ⟨_, _, statement_gives.2 (.ifElse token' first' given other' given'), ends''⟩
  | @loop test m body r token first second =>
    have inside := current_ne_end token (by simp)
    obtain ⟨condition, d, passed, -⟩ := condition_sound first
    have before := Takes.cons_iff.2 ⟨token, by simp, passed⟩
    obtain ⟨body', r', given, ends⟩ := below m (Nat.lt_trans first.fewer (size_next_lt inside))
      (covers.takes before) _ _ second
    have token' := continued_token k token (by simp)
    have first' := continued_next k inside ▸ condition_continued (k := k) first
    have ends' := ends.last (.loop · test ·) (.loop · (test.map k.move) ·) (fun _ _ => rfl)
      (fun _ _ _ => rfl) (fun _ _ => rfl) covers inside whole found.fewer
    exact ⟨_, _, statement_gives.2 (.loop token' first' given), ends'⟩
  | @block body r token inner =>
    have inside := current_ne_end token (by simp)
    have passed := size_next_lt inside
    obtain ⟨m, sequence, closing⟩ := block_gives.1 inner
    have before : Takes s [.punctuation .leftBrace] s.next :=
      Takes.cons_iff.2 ⟨token, by simp, .nil⟩
    obtain ⟨body', m', sequence', ends⟩ := sequence_continued (covers.takes before)
      (fun j le => below j (Nat.lt_of_le_of_lt le passed)) sequence
    rw [← continued_next k inside] at sequence'
    cases ends with
    | closed _ last => exact absurd (Takes.cons_iff.1 closing).1 (by simp [last])
    | kept =>
      refine ⟨_, _, statement_gives.2 (.block (continued_token k token (by simp))
        (block_gives.2 ⟨_, sequence', closing.continued k⟩)), ?_⟩
      rw [span_continued inside, ← Stmt.mapAll_eq_map]
      exact .kept
  | expr inner =>
    obtain ⟨t', r', given, ends⟩ := expressionStatement_continued covers inner
    exact ⟨t', r', statement_gives.2 (.expr given), ends⟩
termination_by s.size

end Stream

end ExprScript
