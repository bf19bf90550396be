import ExprScript.Proofs.Grammar.Levels
import ExprScript.Proofs.Parse.Success

/-!
# What the parser accepts is in the grammar

The parser joins connectives to an operand for as long as the context allows. What carries the
argument is that the expression made so far is a phrase of some level and that the token ahead
leaves a phrase of that level whole.
-/

namespace ExprScript

open Grammar

namespace Grammar

/-- A phrase of a level is one of every looser level. -/
theorem Phrase.loosen {m n : Level} {word : List Token} {e : Expr Parens} (h : Phrase m word e)
    (le : n ≤ m) : Phrase n word e := by
  cases h with
  | literal value => exact .literal value
  | var text => exact .var text
  | parens inner => exact .parens inner
  | builtin function inner => exact .builtin function inner
  | get target member => exact .get target member
  | index target key => exact .index target key
  | call arguments target inner few => exact .call arguments target inner few
  | unary op fits inner => exact .unary op (Level.le_trans le fits) inner
  | binary op fits left right => exact .binary op (Level.le_trans le fits) left right
  | logical op fits left right => exact .logical op (Level.le_trans le fits) left right
  | ternary fits test left right => exact .ternary (Level.le_trans le fits) test left right
  | elvis fits left right => exact .elvis (Level.le_trans le fits) left right
  | assign fits left right => exact .assign (Level.le_trans le fits) left right
  | assignMember fits left right => exact .assignMember (Level.le_trans le fits) left right
  | assignIndex fits left right => exact .assignIndex (Level.le_trans le fits) left right

end Grammar

namespace Stream

variable {s r : Stream} {e lhs : Expr Span} {p : Precedence}

/-- The tokens between two streams are a phrase of a level with the shape of an expression. -/
def Reads (level : Level) (s : Stream) (e : Expr Span) (r : Stream) : Prop :=
  ∃ word d, Takes s word r ∧ Phrase level word d ∧ d.shape = e.shape

/-- Nothing that a context joins is ahead. -/
def Stops (p : Precedence) (s : Stream) : Prop :=
  ∀ c, Connective.ofToken? s.current.token = some c → c.binds p = false

/-- Every success of the expression parser at a stream is a phrase of the level of its context. -/
def SoundAt (s : Stream) : Prop :=
  ∀ p e r, (expression p s).Gives e r → Reads (.readIn p) s e r ∧ Stops p r

theorem Stops.endsBefore {c : Connective} (h : Stops c.precedence r) :
    c.level.EndsBefore r.current.token := by
  intro c' ahead
  exact (c'.binds_context_iff c.level).1 (c.precedence_eq ▸ h c' ahead)

theorem moreArguments_sound {s r : Stream} {opened : Span}
    (below : ∀ m : Stream, m.size < s.size → SoundAt m) {es : List (Expr Span)}
    (h : (moreArguments opened s).Gives es r) :
    ∃ parts : List Argument,
      Takes s ((parts.map Argument.words).flatMap (mark .comma :: ·) ++ [mark .rightParen]) r ∧
      (∀ a ∈ parts, Phrase .assignment a.words a.tree) ∧
      parts.map (fun a => a.tree.shape) = es.map Expr.shape := by
  rcases moreArguments_gives.1 h with ⟨closed, rfl⟩ | ⟨e, others, m, m', comma, first, more, rfl⟩
  · exact ⟨[], by simpa using closed, by simp, rfl⟩
  · have passed := comma.size_lt
    have shorter := Nat.lt_trans first.fewer passed
    have later : ∀ k : Stream, k.size < m'.size → SoundAt k :=
      fun k fewer => below k (Nat.lt_trans fewer shorter)
    obtain ⟨⟨word, d, taken, phrase, shape⟩, -⟩ := below m passed _ _ _ first
    obtain ⟨parts, taken', phrases, shapes⟩ := moreArguments_sound later more
    refine ⟨⟨word, d⟩ :: parts, ?_, ?_, ?_⟩
    · have both := Takes.append_iff.2 ⟨m, comma, Takes.append_iff.2 ⟨m', taken, taken'⟩⟩
      simpa using both
    · exact List.forall_mem_cons.2 ⟨phrase, phrases⟩
    · simp [shape, shapes]
termination_by s.size

theorem arguments_sound {opened : Span} (here : SoundAt s)
    (below : ∀ m : Stream, m.size < s.size → SoundAt m)
    {es : List (Expr Span)} (h : (arguments opened s).Gives es r) :
    ∃ parts : List Argument,
      Takes s (commaSeparated (parts.map Argument.words) ++ [mark .rightParen]) r ∧
      (∀ a ∈ parts, Phrase .assignment a.words a.tree) ∧
      parts.map (fun a => a.tree.shape) = es.map Expr.shape ∧ parts.length ≤ maxArguments := by
  rcases arguments_gives.1 h with ⟨closed, rfl⟩ | ⟨-, e, others, m, first, more, rfl, few⟩
  · exact ⟨[], by simpa [commaSeparated] using closed, by simp, rfl, Nat.zero_le _⟩
  · have later : ∀ k : Stream, k.size < m.size → SoundAt k :=
      fun k fewer => below k (Nat.lt_trans fewer first.fewer)
    obtain ⟨⟨word, d, taken, phrase, shape⟩, -⟩ := here _ _ _ first
    obtain ⟨parts, taken', phrases, shapes⟩ := moreArguments_sound later more
    refine ⟨⟨word, d⟩ :: parts, ?_, ?_, ?_, ?_⟩
    · simp only [List.map_cons, commaSeparated, List.append_assoc, Takes.append_iff]
      exact ⟨m, taken, by simpa using taken'⟩
    · exact List.forall_mem_cons.2 ⟨phrase, phrases⟩
    · simp [shape, shapes]
    · have := congrArg List.length shapes
      simp only [List.length_map, List.length_cons] at this few ⊢
      omega

/-- A connective that takes a phrase whole makes a phrase of its level. -/
theorem join_sound {c : Connective} {h : s.current.token ≠ .endOfInput}
    (below : ∀ m : Stream, m.size < s.size → SoundAt m) (ahead : s.current.token = c.token)
    {left : List Token} {d : Expr Parens} (phrase : Phrase c.leftLevel left d)
    (shape : d.shape = lhs.shape) (joined : (join c lhs s h).Gives e r) :
    ∃ word d', Takes s word r ∧ Phrase c.level (left ++ word) d' ∧ d'.shape = e.shape ∧
      c.level.EndsBefore r.current.token := by
  have passed : s.next.size < s.size := size_next_lt h
  have start : ∀ {word m}, Takes s.next word m → Takes s (c.token :: word) m := fun taken =>
    Takes.cons_iff.2 ⟨ahead, ahead ▸ h, taken⟩
  cases c with
  | binary op =>
    obtain ⟨rhs, found, rfl⟩ := join_binary.1 joined
    obtain ⟨⟨word, d', taken, right, shape'⟩, stops⟩ := below _ passed _ _ _ found
    rw [Level.readIn_binary] at right
    exact ⟨_, _, start taken, .binary op (Level.le_refl _) phrase right, by simp [shape, shape'],
      stops.endsBefore⟩
  | logical op =>
    obtain ⟨rhs, found, rfl⟩ := join_logical.1 joined
    obtain ⟨⟨word, d', taken, right, shape'⟩, stops⟩ := below _ passed _ _ _ found
    rw [Level.readIn_logical] at right
    exact ⟨_, _, start taken, .logical op (Level.le_refl _) phrase right, by simp [shape, shape'],
      stops.endsBefore⟩
  | assignment =>
    obtain ⟨value, found, target⟩ := join_assignment.1 joined
    obtain ⟨⟨word, d', taken, right, shape'⟩, stops⟩ := below _ passed _ _ _ found
    have ends := Stops.endsBefore (c := .assignment) stops
    unfold assignTo? at target
    split at target
    · cases target
      cases d <;> simp at shape
      exact ⟨_, _, start taken, .assign (Level.le_refl _) phrase right, by simp [shape, shape'],
        ends⟩
    · cases target
      cases d <;> simp at shape
      exact ⟨_, _, start taken, .assignMember (Level.le_refl _) phrase right,
        by simp [shape, shape'], ends⟩
    · cases target
      cases d <;> simp at shape
      exact ⟨_, _, start taken, .assignIndex (Level.le_refl _) phrase right,
        by simp [shape, shape'], ends⟩
    · cases target
  | ternary =>
    obtain ⟨yes, m, m', no, first, colon, second, rfl⟩ := join_ternary.1 joined
    have shorter := Nat.lt_trans colon.size_lt (Nat.lt_trans first.fewer passed)
    obtain ⟨⟨word, d', taken, middle, shape'⟩, -⟩ := below _ passed _ _ _ first
    obtain ⟨⟨word', d'', taken', right, shape''⟩, stops⟩ := below _ shorter _ _ _ second
    have inside := Takes.append_iff.2 ⟨m, taken, Takes.append_iff.2 ⟨m', colon, taken'⟩⟩
    have whole := Phrase.ternary (Level.le_refl _) phrase middle right
    exact ⟨_, _, start inside, by simpa [Connective.level, Connective.token] using whole,
      by simp [shape, shape', shape''], Stops.endsBefore (c := .ternary) stops⟩
  | elvis =>
    obtain ⟨rhs, found, rfl⟩ := join_elvis.1 joined
    obtain ⟨⟨word, d', taken, right, shape'⟩, stops⟩ := below _ passed _ _ _ found
    exact ⟨_, _, start taken, .elvis (Level.le_refl _) phrase right, by simp [shape, shape'],
      Stops.endsBefore (c := .elvis) stops⟩
  | call =>
    obtain ⟨span, target, method, found, rfl, given, rfl⟩ := join_call.1 joined
    have later : ∀ k : Stream, k.size < s.next.size → SoundAt k :=
      fun k fewer => below k (Nat.lt_trans fewer passed)
    obtain ⟨parts, taken, phrases, shapes, few⟩ :=
      arguments_sound (below _ passed) later given
    cases d <;> simp at shape
    have whole : Phrase .chain _ _ := .call parts phrase phrases few
    exact ⟨_, _, start taken, by simpa [Connective.level, Connective.token] using whole,
      by simp [shape, shapes, Function.comp_def], Level.endsBefore_chain _⟩
  | member =>
    obtain ⟨⟨text, span⟩, found, rfl⟩ := join_member.1 joined
    obtain ⟨taken, text?, -⟩ := memberName_gives.1 found
    exact ⟨_, _, start taken, .get phrase text?, by simp [shape], Level.endsBefore_chain _⟩
  | index =>
    obtain ⟨key, m, first, close, rfl⟩ := join_index.1 joined
    obtain ⟨⟨word, d', taken, inside, shape'⟩, -⟩ := below _ passed _ _ _ first
    have both := Takes.append_iff.2 ⟨m, taken, close⟩
    have whole : Phrase .chain _ _ := .index phrase inside
    exact ⟨_, _, start both, by simpa [Connective.level, Connective.token] using whole,
      by simp [shape, shape'], Level.endsBefore_chain _⟩

/-- What is joined to a phrase in a context makes a phrase of the level of the context. -/
theorem joined_sound {s r : Stream} {lhs e : Expr Span} {m : Level} {left : List Token}
    {d : Expr Parens} (below : ∀ m : Stream, m.size < s.size → SoundAt m)
    (phrase : Phrase m left d) (shape : d.shape = lhs.shape) (fits : Level.readIn p ≤ m)
    (ends : m.EndsBefore s.current.token) (found : (joined p lhs s).Gives e r) :
    ∃ word d', Takes s word r ∧ Phrase (.readIn p) (left ++ word) d' ∧ d'.shape = e.shape ∧
      Stops p r := by
  by_cases stop : Stops p s
  · obtain ⟨rfl, rfl⟩ := (joined_stop stop).1 found
    exact ⟨[], d, .nil, by simpa using phrase.loosen fits, shape, stop⟩
  · obtain ⟨c, ahead, binds⟩ : ∃ c, Connective.ofToken? s.current.token = some c ∧
        c.binds p = true := by
      simpa [Stops] using stop
    obtain ⟨e', k, first, more⟩ := (joined_step ahead binds).1 found
    obtain ⟨word, d', taken, phrase', shape', ends'⟩ :=
      join_sound below (Connective.eq_token_of_ofToken? ahead) (phrase.loosen (ends c ahead)) shape
        first
    have later : ∀ j : Stream, j.size < k.size → SoundAt j :=
      fun j fewer => below j (Nat.lt_trans fewer first.fewer)
    have fewer := first.fewer
    obtain ⟨word', d'', taken', phrase'', shape'', stops⟩ :=
      joined_sound later phrase' shape' (Connective.readIn_le_of_binds binds) ends' more
    exact ⟨word ++ word', d'', Takes.append_iff.2 ⟨k, taken, taken'⟩, by simpa using phrase'',
      shape'', stops⟩
termination_by s.size

/-- An operand is a phrase that what follows leaves whole. -/
theorem operand_sound (below : ∀ m : Stream, m.size < s.size → SoundAt m)
    (found : (operand s).Gives e r) :
    ∃ m, Level.signed ≤ m ∧ Reads m s e r ∧ m.EndsBefore r.current.token := by
  rcases operand_gives.1 found with
    ⟨op, e', token, inner, rfl⟩ | ⟨function, argument, m, token, opened, given, rfl⟩ |
    ⟨m, token, inner, close⟩ | ⟨leaf, rfl⟩
  · have passed := size_next_lt (current_ne_end token (by simp))
    obtain ⟨⟨word, d, taken, phrase, shape⟩, stops⟩ := below _ passed _ _ _ inner
    refine ⟨.signed, Level.le_refl _, ⟨.sign op.sign :: word, .unary bare op d, ?_, ?_, ?_⟩, ?_⟩
    · exact Takes.cons_iff.2 ⟨token, by simp, taken⟩
    · exact .unary op (Level.le_refl _) phrase
    · simp [shape]
    · exact fun c ahead => (c.binds_context_iff .signed).1 (stops c ahead)
  · have passed := size_next_lt (current_ne_end token (by simp))
    have shorter := Nat.lt_trans opened.size_lt passed
    have later : ∀ k : Stream, k.size < m.size → SoundAt k :=
      fun k fewer => below k (Nat.lt_trans fewer shorter)
    obtain ⟨parts, taken, phrases, shapes, -⟩ := arguments_sound (below _ shorter) later given
    obtain ⟨part, rfl⟩ : ∃ part, parts = [part] := by
      have := congrArg List.length shapes
      exact List.length_eq_one_iff.1 (by simpa using this)
    have all := Takes.append_iff.2 ⟨m, opened, taken⟩
    refine ⟨.chain, by decide, ⟨_, .builtin bare function part.tree, ?_,
      .builtin function (phrases part (by simp)), ?_⟩, Level.endsBefore_chain _⟩
    · exact Takes.cons_iff.2 ⟨token, by simp, by simpa [commaSeparated] using all⟩
    · simpa using shapes
  · have passed := size_next_lt (current_ne_end token (by simp))
    obtain ⟨⟨word, d, taken, phrase, shape⟩, -⟩ := below _ passed _ _ _ inner
    refine ⟨.chain, by decide, ⟨_, d.mapRoot .succ, ?_, .parens phrase, by simp [shape]⟩,
      Level.endsBefore_chain _⟩
    exact Takes.cons_iff.2 ⟨token, by simp, Takes.append_iff.2 ⟨m, taken, close⟩⟩
  · have single : Takes s [s.current.token] s.next :=
      Takes.cons_iff.2 ⟨rfl, ne_end_of_literal? leaf, .nil⟩
    refine ⟨.chain, by decide, ?_, Level.endsBefore_chain _⟩
    rcases literal?_eq_some_iff.1 leaf with ⟨value, token, rfl⟩ | ⟨text, token, rfl⟩
    · exact ⟨_, .literal bare value, token ▸ single, .literal value, rfl⟩
    · exact ⟨_, .var ⟨text, bare⟩, token ▸ single, .var text, rfl⟩

/-- Every success of the expression parser is a phrase of the level of its context, and nothing
that the context joins is behind it. -/
theorem expression_sound (s : Stream) : SoundAt s := by
  intro p e r found
  have below : ∀ m : Stream, m.size < s.size → SoundAt m := fun m _ => expression_sound m
  obtain ⟨lhs, m, first, more⟩ := expression_gives.1 found
  obtain ⟨level, signed, ⟨word, d, taken, phrase, shape⟩, ends⟩ := operand_sound below first
  have later : ∀ k : Stream, k.size < m.size → SoundAt k :=
    fun k fewer => below k (Nat.lt_trans fewer first.fewer)
  obtain ⟨word', d', taken', phrase', shape', stops⟩ :=
    joined_sound later phrase shape (Level.le_trans (Level.readIn_le_signed p) signed) ends more
  exact ⟨⟨word ++ word', d', Takes.append_iff.2 ⟨m, taken, taken'⟩, phrase', shape'⟩, stops⟩
termination_by s.size

end Stream

end ExprScript
