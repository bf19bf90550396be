import ExprScript.Proofs.Grammar.Soundness

/-!
# What is in the grammar is accepted by the parser

A phrase is an operand, or it ends with what a connective joins to a phrase on its left. The parser
does not stop behind that left side, so more is shown than that a phrase is read: the loop of the
parser comes to the place behind the phrase with the tree of the phrase.
-/

namespace ExprScript

open Grammar

namespace Grammar

/-- The phrases that do not start with a phrase of their own. -/
inductive Operand : Level → List Token → Expr Parens → Prop where
  | literal {level} (value : Literal) : Operand level [value.token] (.literal bare value)
  | var {level} (text : String) : Operand level [.identifier text] (.var ⟨text, bare⟩)
  | parens {level word e} :
    Phrase .assignment word e →
    Operand level (mark .leftParen :: word ++ [mark .rightParen]) (e.mapRoot .succ)
  | builtin {level word e} (function : Builtin) :
    Phrase .assignment word e →
    Operand level (.keyword function.keyword :: mark .leftParen :: word ++ [mark .rightParen])
      (.builtin bare function e)
  | unary {level word e} (op : UnaryOp) :
    level ≤ .signed → Phrase .signed word e →
    Operand level (.sign op.sign :: word) (.unary bare op e)

/-- What a connective joins to the left side: the words behind it and the tree that it makes. -/
inductive Joint : Connective → Expr Parens → List Token → Expr Parens → Prop where
  | get {target token text} :
    token.memberText? = some text →
    Joint .member target [token] (.get bare target ⟨text, bare⟩)
  | index {target inside key} :
    Phrase .assignment inside key →
    Joint .index target (inside ++ [mark .rightBracket]) (.index bare target key)
  | call {p target method} (arguments : List Argument) :
    (∀ a ∈ arguments, Phrase .assignment a.words a.tree) → arguments.length ≤ maxArguments →
    Joint .call (.get p target method)
      (commaSeparated (arguments.map Argument.words) ++ [mark .rightParen])
      (.call ⟨0, p.around⟩ target method (arguments.map Argument.tree))
  | binary {lhs right rhs} (op : BinaryOp) :
    Phrase (Level.ofBinary op).tighter right rhs →
    Joint (.binary op) lhs right (.binary bare op lhs rhs)
  | logical {lhs right rhs} (op : LogicalOp) :
    Phrase (Level.ofLogical op).tighter right rhs →
    Joint (.logical op) lhs right (.logical bare op lhs rhs)
  | ternary {condition left yes right no} :
    Phrase .assignment left yes → Phrase .choice right no →
    Joint .ternary condition (left ++ mark .colon :: right) (.ternary bare condition yes no)
  | elvis {lhs right rhs} :
    Phrase .choice right rhs → Joint .elvis lhs right (.elvis bare lhs rhs)
  | assign {name right value} :
    Phrase .assignment right value →
    Joint .assignment (.var name) right (.assign bare name value)
  | assignMember {p target member right value} :
    Phrase .assignment right value →
    Joint .assignment (.get p target member) right (.assignMember ⟨0, p.around⟩ target member value)
  | assignIndex {p target key right value} :
    Phrase .assignment right value →
    Joint .assignment (.index p target key) right (.assignIndex ⟨0, p.around⟩ target key value)

/-- A phrase is an operand, or it ends with what a connective joins to a phrase. -/
theorem Phrase.split {level : Level} {word : List Token} {d : Expr Parens}
    (h : Phrase level word d) :
    Operand level word d ∨ ∃ c left lhs rest,
      word = left ++ c.token :: rest ∧ level ≤ c.level ∧ Phrase c.leftLevel left lhs ∧
        Joint c lhs rest d := by
  cases h with
  | literal value => exact .inl (.literal value)
  | var text => exact .inl (.var text)
  | parens inner => exact .inl (.parens inner)
  | builtin function inner => exact .inl (.builtin function inner)
  | unary op fits inner => exact .inl (.unary op fits inner)
  | get target member => exact .inr ⟨.member, _, _, _, rfl, level.le_chain, target, .get member⟩
  | index target key =>
    exact .inr ⟨.index, _, _, _, by simp [Connective.token], level.le_chain, target, .index key⟩
  | call arguments target inner few =>
    exact .inr ⟨.call, _, _, _, by simp [Connective.token], level.le_chain, target,
      .call arguments inner few⟩
  | binary op fits left right =>
    exact .inr ⟨.binary op, _, _, _, rfl, fits, left, .binary op right⟩
  | logical op fits left right =>
    exact .inr ⟨.logical op, _, _, _, rfl, fits, left, .logical op right⟩
  | ternary fits test left right =>
    exact .inr ⟨.ternary, _, _, _, by simp [Connective.token], fits, test, .ternary left right⟩
  | elvis fits left right => exact .inr ⟨.elvis, _, _, _, rfl, fits, left, .elvis right⟩
  | assign fits left right => exact .inr ⟨.assignment, _, _, _, rfl, fits, left, .assign right⟩
  | assignMember fits left right =>
    exact .inr ⟨.assignment, _, _, _, rfl, fits, left, .assignMember right⟩
  | assignIndex fits left right =>
    exact .inr ⟨.assignment, _, _, _, rfl, fits, left, .assignIndex right⟩

/-- Words are no longer than when they stand with others. -/
theorem length_le_commaSeparated {word : List Token} {words : List (List Token)}
    (h : word ∈ words) : word.length ≤ (commaSeparated words).length := by
  cases words with
  | nil => cases h
  | cons first rest =>
    rcases List.mem_cons.1 h with rfl | later
    · simp [commaSeparated]
    · obtain ⟨front, back, rfl⟩ := List.append_of_mem later
      simp only [commaSeparated, List.flatMap_append, List.flatMap_cons, List.length_append,
        List.length_cons]
      omega

end Grammar

namespace Stream

/-- The parser comes to a place with an expression after joining `n` connectives. -/
inductive Visits (p : Precedence) (s : Stream) : Nat → Expr Span → Stream → Prop where
  | operand {e r} : (operand s).Gives e r → Visits p s 0 e r
  | join {n lhs m c h e r} :
    Visits p s n lhs m → m.current.token = c.token → c.binds p = true →
    (join c lhs m h).Gives e r → Visits p s (n + 1) e r

variable {s r : Stream} {e lhs : Expr Span} {d : Expr Parens} {p : Precedence} {level : Level}
  {word rest : List Token} {c : Connective}

/-- The expression parser goes on from every place it comes to. -/
theorem Visits.goes_on {n : Nat} {m : Stream} (h : Visits p s n lhs m)
    (more : (joined p lhs m).Gives e r) : (expression p s).Gives e r := by
  induction h with
  | operand first => exact expression_gives.2 ⟨_, _, first, more⟩
  | @join n lhs m c h e' r' visits ahead binds first ih =>
    have found : Connective.ofToken? m.current.token = some c := by simp [ahead]
    exact ih ((joined_step found binds).2 ⟨_, _, first, more⟩)

/-- What leaves the phrases of a level whole is not joined in the context of the level. -/
theorem stops_of_endsBefore (h : level.EndsBefore r.current.token) : Stops level.context r :=
  fun c ahead => (c.binds_context_iff level).2 (h c ahead)

theorem stops_of_none (h : Connective.ofToken? r.current.token = none) : Stops p r := by
  intro c ahead
  simp [h] at ahead

/-- The parser reads an expression of the shape of a derivation. -/
def Yields (p : Precedence) (s : Stream) (d : Expr Parens) (r : Stream) : Prop :=
  ∃ e, (expression p s).Gives e r ∧ d.shape = e.shape

/-- Wherever a word that is a phrase is taken, the parser comes to the place behind it. -/
def ReadBack (word : List Token) : Prop :=
  ∀ level d p s r, Phrase level word d → p ≠ .call → Level.readIn p ≤ level → Takes s word r →
    level.EndsBefore r.current.token → ∃ n e, Visits p s n e r ∧ d.shape = e.shape

theorem ReadBack.yields (h : ReadBack word) (phrase : Phrase level word d) (other : p ≠ .call)
    (fits : Level.readIn p ≤ level) (taken : Takes s word r)
    (ends : level.EndsBefore r.current.token) (stops : Stops p r) : Yields p s d r := by
  obtain ⟨n, e, visits, shape⟩ := h _ _ _ _ _ phrase other fits taken ends
  exact ⟨e, visits.goes_on ((joined_stop stops).2 ⟨rfl, rfl⟩), shape⟩

/-- Where no connective is ahead every context yields. -/
theorem ReadBack.yields_of_none (h : ReadBack word) (phrase : Phrase .assignment word d)
    (taken : Takes s word r) (none : Connective.ofToken? r.current.token = none) :
    Yields .lowest s d r :=
  h.yields phrase (by decide) (Level.le_refl _) taken (Level.endsBefore_of_none none)
    (stops_of_none none)

/-- No connective is behind an argument: a comma or the closing parenthesis is. -/
theorem none_behind_argument {words : List (List Token)}
    (h : Takes s (words.flatMap (mark .comma :: ·) ++ [mark .rightParen]) r) :
    Connective.ofToken? s.current.token = none := by
  cases words with
  | nil => simp_all [Connective.ofToken?]
  | cons =>
    simp only [List.flatMap_cons, List.cons_append, Takes.cons_iff] at h
    simp [h.1, Connective.ofToken?]

theorem moreArguments_complete {opened : Span} {parts : List Argument} {s : Stream}
    (each : ∀ a ∈ parts, ReadBack a.words)
    (phrases : ∀ a ∈ parts, Phrase .assignment a.words a.tree)
    (taken :
      Takes s ((parts.map Argument.words).flatMap (mark .comma :: ·) ++ [mark .rightParen]) r) :
    ∃ es, (moreArguments opened s).Gives es r ∧
      parts.map (fun a => a.tree.shape) = es.map Expr.shape := by
  induction parts generalizing s with
  | nil => exact ⟨[], moreArguments_gives.2 (.inl ⟨taken, rfl⟩), rfl⟩
  | cons a rest ih =>
    obtain ⟨here, later⟩ := List.forall_mem_cons.1 each
    obtain ⟨phrase, phrases⟩ := List.forall_mem_cons.1 phrases
    simp only [List.map_cons, List.flatMap_cons, List.append_assoc, List.cons_append] at taken
    obtain ⟨comma, -, taken⟩ := Takes.cons_iff.1 taken
    obtain ⟨m, first, others⟩ := Takes.append_iff.1 taken
    obtain ⟨e, found, shape⟩ := here.yields_of_none phrase first (none_behind_argument others)
    obtain ⟨es, more, shapes⟩ := ih later phrases others
    refine ⟨e :: es, moreArguments_gives.2 (.inr ⟨e, es, s.next, m, ?_, found, more, rfl⟩), ?_⟩
    · exact Takes.cons_iff.2 ⟨comma, by simp, .nil⟩
    · simp [shape, shapes]

theorem arguments_complete (opened : Span) {parts : List Argument}
    (each : ∀ a ∈ parts, ReadBack a.words)
    (phrases : ∀ a ∈ parts, Phrase .assignment a.words a.tree)
    (few : parts.length ≤ maxArguments)
    (taken : Takes s (commaSeparated (parts.map Argument.words) ++ [mark .rightParen]) r) :
    ∃ es, (arguments opened s).Gives es r ∧
      parts.map (fun a => a.tree.shape) = es.map Expr.shape := by
  cases parts with
  | nil => exact ⟨[], arguments_gives.2 (.inl ⟨taken, rfl⟩), rfl⟩
  | cons a rest =>
    obtain ⟨here, later⟩ := List.forall_mem_cons.1 each
    obtain ⟨phrase, phrases⟩ := List.forall_mem_cons.1 phrases
    simp only [List.map_cons, commaSeparated, List.append_assoc] at taken
    obtain ⟨m, first, others⟩ := Takes.append_iff.1 taken
    obtain ⟨e, found, shape⟩ := here.yields_of_none phrase first (none_behind_argument others)
    obtain ⟨es, more, shapes⟩ := moreArguments_complete later phrases others
    have counted : (e :: es).length ≤ maxArguments := by
      have := congrArg List.length shapes
      simp only [List.length_map, List.length_cons] at *
      omega
    have more? : s.current.token ≠ .punctuation .rightParen := by
      intro close
      simpa [close] using opensExpression_of_gives found
    exact ⟨e :: es, arguments_gives.2 (.inr ⟨more?, e, es, m, found, more, rfl, counted⟩),
      by simp [shape, shapes]⟩

theorem operand_complete (below : ∀ inner : List Token, inner.length < word.length → ReadBack inner)
    (h : Operand level word d) (taken : Takes s word r) (ends : level.EndsBefore r.current.token) :
    ∃ e, (operand s).Gives e r ∧ d.shape = e.shape := by
  cases h with
  | literal value =>
    obtain ⟨token, -, rfl⟩ : s.current.token = value.token ∧ _ ∧ s.next = r := by simpa using taken
    exact ⟨_, (operand_leaf (literal?_eq_some_iff.2 (.inl ⟨value, token, rfl⟩))).2 ⟨rfl, rfl⟩, rfl⟩
  | var text =>
    obtain ⟨token, rfl⟩ : s.current.token = .identifier text ∧ s.next = r := by simpa using taken
    exact ⟨_, (operand_leaf (literal?_eq_some_iff.2 (.inr ⟨text, token, rfl⟩))).2 ⟨rfl, rfl⟩, rfl⟩
  | @parens word e inner =>
    simp only [List.cons_append, Takes.cons_iff, Takes.append_iff] at taken
    obtain ⟨token, -, m, taken, close⟩ := taken
    obtain ⟨e', found, shape⟩ := (below word (by grind)).yields_of_none inner taken
      (by simp [close, Connective.ofToken?])
    exact ⟨e', (operand_parens token).2 ⟨m, found, Takes.cons_iff.2 close⟩, by simp [shape]⟩
  | @builtin word e function inner =>
    simp only [List.cons_append, Takes.cons_iff, Takes.append_iff] at taken
    obtain ⟨token, -, opened, -, taken⟩ := taken
    have given : Takes s.next.next
        (commaSeparated ([(⟨word, e⟩ : Argument)].map Argument.words) ++ [mark .rightParen]) r := by
      simpa [commaSeparated] using taken
    obtain ⟨es, found, shapes⟩ := arguments_complete s.next.current.span
      (by simpa using below word (by grind)) (by simpa using inner) (by simp [maxArguments]) given
    obtain ⟨e', rfl⟩ : ∃ e', es = [e'] := by
      have := congrArg List.length shapes
      exact List.length_eq_one_iff.1 (by simpa using this.symm)
    refine ⟨_, (operand_builtin token).2 ⟨e', _, ?_, found, rfl⟩, by simpa using shapes⟩
    exact Takes.cons_iff.2 ⟨opened, by simp, .nil⟩
  | @unary word e op fits inner =>
    obtain ⟨token, -, taken⟩ := Takes.cons_iff.1 taken
    have ends := ends.mono fits
    obtain ⟨e', found, shape⟩ := (below word (by grind)).yields inner (p := .unary) (by decide)
      (Level.le_refl _) taken ends (stops_of_endsBefore ends)
    exact ⟨_, (operand_unary token).2 ⟨e', found, rfl⟩, by simp [shape]⟩

/-- The right side of a connective is read in the context of the connective. -/
theorem ReadBack.yields_right (h : ReadBack word) (phrase : Phrase (.readIn c.precedence) word d)
    (other : c.precedence ≠ .call) (taken : Takes s word r)
    (ends : c.level.EndsBefore r.current.token) : Yields c.precedence s d r :=
  h.yields phrase other (Level.le_refl _) taken (ends.mono (c.level_le_readIn other))
    (c.precedence_eq ▸ stops_of_endsBefore ends)

theorem join_complete (below : ∀ inner : List Token, inner.length ≤ rest.length → ReadBack inner)
    {left : Expr Parens} (h : Joint c left rest d) (same : left.shape = lhs.shape)
    (inside : s.current.token ≠ .endOfInput) (taken : Takes s.next rest r)
    (ends : c.level.EndsBefore r.current.token) :
    ∃ e, (join c lhs s inside).Gives e r ∧ d.shape = e.shape := by
  cases h with
  | @get _ token text member =>
    have token? : s.next.current.token = token ∧ token ≠ .endOfInput ∧ s.next.next = r := by
      simpa using taken
    obtain ⟨rfl, inside, rfl⟩ := token?
    have named : s.next.memberName.Gives ⟨text, s.next.current.span⟩ s.next.next :=
      memberName_gives.2 ⟨Takes.cons_iff.2 ⟨rfl, inside, .nil⟩, member, rfl⟩
    exact ⟨_, join_member.2 ⟨_, named, rfl⟩, by simp [same]⟩
  | @index _ inner _ key =>
    obtain ⟨m, taken, close⟩ := Takes.append_iff.1 taken
    obtain ⟨e, found, shape⟩ := (below inner (by simp)).yields_of_none key taken
      (by simp [(Takes.cons_iff.1 close).1, Connective.ofToken?])
    exact ⟨_, join_index.2 ⟨e, m, found, close, rfl⟩, by simp [same, shape]⟩
  | call arguments inner few =>
    cases lhs <;> simp at same
    have shorter : ∀ a ∈ arguments, a.words.length ≤
        (commaSeparated (arguments.map Argument.words) ++ [mark .rightParen]).length := by
      intro a listed
      have := length_le_commaSeparated (List.mem_map_of_mem (f := Argument.words) listed)
      simp only [List.length_append]
      omega
    obtain ⟨es, found, shapes⟩ := arguments_complete s.current.span
      (fun a listed => below a.words (shorter a listed)) inner few taken
    exact ⟨_, join_call.2 ⟨_, _, _, es, rfl, found, rfl⟩,
      by simp [same, ← shapes, Function.comp_def]⟩
  | binary op right =>
    obtain ⟨e, found, shape⟩ := (below rest (Nat.le_refl _)).yields_right (c := .binary op)
      (by simpa using right) (by cases op <;> decide) taken ends
    exact ⟨_, join_binary.2 ⟨e, found, rfl⟩, by simp [same, shape]⟩
  | logical op right =>
    obtain ⟨e, found, shape⟩ := (below rest (Nat.le_refl _)).yields_right (c := .logical op)
      (by simpa using right) (by cases op <;> decide) taken ends
    exact ⟨_, join_logical.2 ⟨e, found, rfl⟩, by simp [same, shape]⟩
  | @ternary _ first _ second _ yes no =>
    obtain ⟨m, taken, colon, -, taken'⟩ := by
      simpa only [Takes.append_iff, Takes.cons_iff] using taken
    obtain ⟨e, found, shape⟩ := (below first (by simp)).yields_of_none yes taken
      (by simp [colon, Connective.ofToken?])
    obtain ⟨e', found', shape'⟩ := (below second (by grind)).yields_right (c := .ternary) no
      (by decide) taken' ends
    have passed : Takes m [.punctuation .colon] m.next := by simp [colon]
    exact ⟨_, join_ternary.2 ⟨e, m, m.next, e', found, passed, found', rfl⟩,
      by simp [same, shape, shape']⟩
  | elvis right =>
    obtain ⟨e, found, shape⟩ := (below rest (Nat.le_refl _)).yields_right (c := .elvis) right
      (by decide) taken ends
    exact ⟨_, join_elvis.2 ⟨e, found, rfl⟩, by simp [same, shape]⟩
  | assign right | assignMember right | assignIndex right =>
    cases lhs <;> simp at same
    obtain ⟨e, found, shape⟩ := (below rest (Nat.le_refl _)).yields_right (c := .assignment) right
      (by decide) taken ends
    exact ⟨_, join_assignment.2 ⟨e, found, rfl⟩, by simp [same, shape]⟩

/-- The parser comes to the place in front of a connective, and from there behind the joint. -/
theorem visits_of_joint {left : List Token} {d' : Expr Parens} (back : ReadBack left)
    (below : ∀ inner : List Token, inner.length ≤ rest.length → ReadBack inner)
    (phrase : Phrase c.leftLevel left d') (joint : Joint c d' rest d) (other : p ≠ .call)
    (fits : Level.readIn p ≤ c.level) (taken : Takes s (left ++ c.token :: rest) r)
    (ends : c.level.EndsBefore r.current.token) :
    ∃ n m e e', Visits p s n e m ∧ Takes s left m ∧ Visits p s (n + 1) e' r ∧
      d.shape = e'.shape := by
  obtain ⟨m, taken, ahead, inside, taken'⟩ := by
    simpa only [Takes.append_iff, Takes.cons_iff] using taken
  obtain ⟨n, e, visits, shape⟩ := back _ _ p s m phrase other
    (Level.le_trans fits c.level_le_leftLevel) taken (ahead ▸ c.endsBefore_token)
  obtain ⟨e', joined, shape'⟩ := join_complete below joint shape (ahead ▸ inside) taken' ends
  exact ⟨n, m, e, e', visits, taken, .join visits ahead ((c.binds_iff other).2 fits) joined, shape'⟩

/-- Every word is read back: by what its phrase ends with, from the shorter words in it. -/
theorem readBack (word : List Token) : ReadBack word := by
  intro level d p s r phrase other fits taken ends
  rcases phrase.split with operand | ⟨c, left, lhs, rest, rfl, le, phrase', joint⟩
  · obtain ⟨e, found, shape⟩ :=
      operand_complete (fun inner shorter => readBack inner) operand taken ends
    exact ⟨0, e, .operand found, shape⟩
  · obtain ⟨n, m, _, e, -, -, visits, shape⟩ := visits_of_joint (readBack left)
      (fun inner shorter => readBack inner) phrase' joint other (Level.le_trans fits le) taken
      (ends.mono le)
    exact ⟨n + 1, e, visits, shape⟩
termination_by word.length
decreasing_by
  · exact shorter
  · grind
  · grind

end Stream

end ExprScript
