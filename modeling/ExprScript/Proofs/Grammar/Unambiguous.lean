import ExprScript.Proofs.Grammar.Statements

/-!
# A word has one derivation

The parser is a function, so the place where it stands behind a phrase determines the phrase in
front of it. Two derivations of one word therefore split it at the same places, and they agree by
induction on its length.
-/

namespace ExprScript

open Grammar

theorem Literal.token_ne_punctuation (value : Literal) (m : Punctuation) :
    value.token ≠ .punctuation m := by
  cases value with
  | boolean b => cases b <;> simp [token]
  | _ => simp [token]

namespace Grammar

theorem mem_commaSeparated {t : Token} {words : List (List Token)} (h : t ∈ commaSeparated words) :
    t = mark .comma ∨ ∃ word ∈ words, t ∈ word := by
  cases words with
  | nil => cases h
  | cons first rest =>
    simp only [commaSeparated, List.mem_append, List.mem_flatMap, List.mem_cons] at h
    grind

/-- No phrase goes over the end of the input. -/
theorem Phrase.inside {level : Level} {word : List Token} {d : Expr Parens}
    (h : Phrase level word d) : .endOfInput ∉ word := by
  induction h with
  | literal value =>
    cases value with
    | boolean b => cases b <;> simp [Literal.token]
    | _ => simp [Literal.token]
  | get target member ih =>
    rename_i token _
    have other : token ≠ .endOfInput := by
      rintro rfl
      simp [Token.memberText?] at member
    simp [ih, other.symm]
  | call arguments target inner few ihTarget ihInner =>
    have separated : .endOfInput ∉ commaSeparated (arguments.map Argument.words) := by
      intro last
      rcases mem_commaSeparated last with other | ⟨word, listed, last⟩
      · cases other
      · obtain ⟨a, argument, rfl⟩ := List.mem_map.1 listed
        exact ihInner a argument last
    simp [ihTarget, separated]
  | _ => simp_all

theorem Sentence.inside {ended : Bool} {word : List Token} {d : Stmt Parens}
    (h : Sentence ended word d) : .endOfInput ∉ word := by
  induction h with
  | expr phrase => simp [phrase.inside]
  | unended phrase => exact phrase.inside
  | block parts sentences pairwise ih =>
    simp only [List.cons_append, List.mem_cons, List.mem_append, List.mem_flatMap]
    grind
  | ifThen phrase sentence ih => simp [phrase.inside, ih]
  | ifElse phrase sentence nearest other ihYes ihNo => simp [phrase.inside, ihYes, ihNo]
  | loop phrase sentence ih => simp [phrase.inside, ih]
  | empty => simp

end Grammar

namespace Stream

variable {s r : Stream} {e lhs : Expr Span} {d d' : Expr Parens} {p : Precedence} {level : Level}
  {word word' rest : List Token} {c : Connective}

/-- The stream of the tokens of a word. -/
def ofWord (word : List Token) : Stream := ofTokens (word.map fun token => ⟨token, .nowhere⟩)

theorem words_ofWord (h : .endOfInput ∉ word) : (ofWord word).words = word := by
  have tokens : (ofWord word).rest.map SpannedToken.token = word := by
    simp [ofWord, ofTokens, Function.comp_def]
  rw [words, tokens]
  clear tokens
  induction word with
  | nil => rfl
  | cons t rest ih =>
    simp only [List.mem_cons, not_or] at h
    simpa [Ne.symm h.1] using ih h.2

theorem Visits.unique {n : Nat} {e' : Expr Span} {r' : Stream} (h : Visits p s n e r)
    (h' : Visits p s n e' r') : e = e' ∧ r = r' := by
  induction h generalizing e' r' with
  | operand found =>
    obtain ⟨found'⟩ := h'
    exact found.unique found'
  | @join n lhs m c _ e r visits ahead binds joined ih =>
    obtain _ | @⟨_, lhs', m', c', _, _, _, visits', ahead', binds', joined'⟩ := h'
    obtain ⟨rfl, rfl⟩ := ih visits'
    obtain rfl : c' = c := by simpa [ahead'] using congrArg Connective.ofToken? ahead
    exact joined.unique joined'

/-- Each join takes tokens. -/
theorem Visits.fewer {n k : Nat} {e' : Expr Span} {r' : Stream} (h : Visits p s n e r)
    (h' : Visits p s k e' r') (lt : n < k) : r'.size < r.size := by
  induction h' with
  | operand => omega
  | @join k lhs m c _ e' r' visits ahead binds joined ih =>
    have fewer := joined.fewer
    rcases Nat.lt_or_eq_of_le (Nat.le_of_lt_succ lt) with lt | rfl
    · have := ih lt
      omega
    · obtain ⟨-, rfl⟩ := h.unique visits
      exact fewer

/-- The parser comes to a place once. -/
theorem Visits.once {n n' : Nat} {e' : Expr Span} (h : Visits p s n e r)
    (h' : Visits p s n' e' r) : n = n' := by
  rcases Nat.lt_trichotomy n n' with lt | same | lt
  · exact absurd (h.fewer h' lt) (Nat.lt_irrefl _)
  · exact same
  · exact absurd (h'.fewer h lt) (Nat.lt_irrefl _)

/-- Two phrases behind which no connective stands end at the same place. -/
theorem argument_unique {r' : Stream} (phrase : Phrase .assignment word d)
    (phrase' : Phrase .assignment word' d') (taken : Takes s word r) (taken' : Takes s word' r')
    (none : Connective.ofToken? r.current.token = none)
    (none' : Connective.ofToken? r'.current.token = Option.none) : r = r' := by
  obtain ⟨e, found, -⟩ := (readBack word).yields_of_none phrase taken none
  obtain ⟨e', found', -⟩ := (readBack word').yields_of_none phrase' taken' none'
  exact (found.unique found').2

theorem argument_opens (phrase : Phrase .assignment word d) (taken : Takes s word r)
    (none : Connective.ofToken? r.current.token = none) :
    s.current.token.opensExpression = true := by
  obtain ⟨e, found, -⟩ := (readBack word).yields_of_none phrase taken none
  exact opensExpression_of_gives found

/-- A word has one derivation as an expression. -/
def Unique (word : List Token) : Prop :=
  ∀ d d', Phrase .assignment word d → Phrase .assignment word d' → d = d'

theorem Unique.eq {level' : Level} (h : Unique word) (phrase : Phrase level word d)
    (phrase' : Phrase level' word d') : d = d' :=
  h d d' (phrase.loosen (Nat.zero_le _)) (phrase'.loosen (Nat.zero_le _))

theorem Unique.argument_eq {a a' : Argument} (h : Unique a.words)
    (phrase : Phrase .assignment a.words a.tree) (phrase' : Phrase .assignment a'.words a'.tree)
    (taken : Takes s a.words r) (taken' : Takes s a'.words r) : a = a' := by
  obtain ⟨words, tree⟩ := a
  obtain ⟨words', tree'⟩ := a'
  obtain rfl : words = words' := taken.unique taken'
  obtain rfl : tree = tree' := h.eq phrase phrase'
  rfl

theorem operand_unique {level' : Level}
    (below : ∀ inner : List Token, inner.length < word.length → Unique inner)
    (h : Operand level word d) (h' : Operand level' word d') (shape : d.shape = d'.shape) :
    d = d' := by
  generalize same : word = word' at h'
  cases h with
  | literal value =>
    cases h' with
    | literal value' => simpa using shape
    | parens => simp [value.token_ne_punctuation] at same
    | _ => simp at shape
  | var text =>
    cases h' with
    | var text' => simpa using shape
    | parens => simp at same
    | _ => simp at shape
  | @parens inner e phrase =>
    cases h' with
    | parens phrase' =>
      obtain rfl : inner = _ := by simpa using same
      rw [(below inner (by grind)).eq phrase phrase']
    | literal value' => simp [(value'.token_ne_punctuation _).symm] at same
    | _ => simp at same
  | @builtin inner e function phrase =>
    cases h' with
    | builtin function' phrase' =>
      obtain rfl : inner = _ := by simpa using (List.cons.inj same).2
      obtain ⟨rfl, -⟩ : function = function' ∧ _ := by simpa using shape
      rw [(below inner (by grind)).eq phrase phrase']
    | parens => simp at same
    | _ => simp at shape
  | @unary inner e op fits phrase =>
    cases h' with
    | unary op' fits' phrase' =>
      obtain rfl : inner = _ := (List.cons.inj same).2
      obtain ⟨rfl, -⟩ : op = op' ∧ _ := by simpa using shape
      rw [(below inner (by simp)).eq phrase phrase']
    | parens => simp at same
    | _ => simp at shape

theorem moreArguments_unique {parts parts' : List Argument} {s : Stream}
    (each : ∀ a ∈ parts, Phrase .assignment a.words a.tree)
    (each' : ∀ a ∈ parts', Phrase .assignment a.words a.tree)
    (below : ∀ a ∈ parts, Unique a.words)
    (taken :
      Takes s ((parts.map Argument.words).flatMap (mark .comma :: ·) ++ [mark .rightParen]) r)
    (taken' :
      Takes s ((parts'.map Argument.words).flatMap (mark .comma :: ·) ++ [mark .rightParen]) r) :
    parts = parts' := by
  induction parts generalizing parts' s with
  | nil =>
    cases parts' with
    | nil => rfl
    | cons => simp_all
  | cons a others ih =>
    cases parts' with
    | nil => simp_all
    | cons a' others' =>
      obtain ⟨here, later⟩ := List.forall_mem_cons.1 each
      obtain ⟨here', later'⟩ := List.forall_mem_cons.1 each'
      obtain ⟨unique, shorter⟩ := List.forall_mem_cons.1 below
      simp only [List.map_cons, List.flatMap_cons, List.append_assoc, List.cons_append]
        at taken taken'
      obtain ⟨m, first, more⟩ := Takes.append_iff.1 (Takes.cons_iff.1 taken).2.2
      obtain ⟨m', first', more'⟩ := Takes.append_iff.1 (Takes.cons_iff.1 taken').2.2
      obtain rfl := argument_unique here here' first first' (none_behind_argument more)
        (none_behind_argument more')
      rw [ih later later' shorter more more', unique.argument_eq here here' first first']

theorem arguments_unique {parts parts' : List Argument}
    (each : ∀ a ∈ parts, Phrase .assignment a.words a.tree)
    (each' : ∀ a ∈ parts', Phrase .assignment a.words a.tree)
    (below : ∀ a ∈ parts, Unique a.words)
    (taken : Takes s (commaSeparated (parts.map Argument.words) ++ [mark .rightParen]) r)
    (taken' : Takes s (commaSeparated (parts'.map Argument.words) ++ [mark .rightParen]) r) :
    parts = parts' := by
  cases parts with
  | nil =>
    cases parts' with
    | nil => rfl
    | cons a' others' =>
      obtain ⟨here', -⟩ := List.forall_mem_cons.1 each'
      simp only [List.map_cons, commaSeparated, List.append_assoc] at taken'
      obtain ⟨m', first', more'⟩ := Takes.append_iff.1 taken'
      have opens := argument_opens here' first' (none_behind_argument more')
      simp [(Takes.cons_iff.1 taken).1] at opens
  | cons a others =>
    obtain ⟨here, later⟩ := List.forall_mem_cons.1 each
    obtain ⟨unique, shorter⟩ := List.forall_mem_cons.1 below
    simp only [List.map_cons, commaSeparated, List.append_assoc] at taken
    obtain ⟨m, first, more⟩ := Takes.append_iff.1 taken
    cases parts' with
    | nil =>
      have opens := argument_opens here first (none_behind_argument more)
      simp [(Takes.cons_iff.1 taken').1] at opens
    | cons a' others' =>
      obtain ⟨here', later'⟩ := List.forall_mem_cons.1 each'
      simp only [List.map_cons, commaSeparated, List.append_assoc] at taken'
      obtain ⟨m', first', more'⟩ := Takes.append_iff.1 taken'
      obtain rfl := argument_unique here here' first first' (none_behind_argument more)
        (none_behind_argument more')
      rw [moreArguments_unique later later' shorter more more',
        unique.argument_eq here here' first first']

theorem joint_unique {s : Stream}
    (below : ∀ inner : List Token, inner.length ≤ rest.length → Unique inner)
    {left : Expr Parens} (h : Joint c left rest d) (h' : Joint c left rest d')
    (shape : d.shape = d'.shape) (taken : Takes s rest r) : d = d' := by
  have whole : Unique rest := below rest (Nat.le_refl _)
  generalize same : rest = rest' at h'
  cases h with
  | get member =>
    cases h'
    simpa using shape
  | @index _ inner _ key =>
    cases h' with
    | index key' =>
      obtain rfl : inner = _ := by simpa using same
      rw [(below inner (by simp)).eq key key']
  | call arguments inner few =>
    cases h' with
    | call arguments' inner' few' =>
      have shorter : ∀ a ∈ arguments, Unique a.words := by
        intro a listed
        have := length_le_commaSeparated (List.mem_map_of_mem (f := Argument.words) listed)
        refine below a.words ?_
        simp only [List.length_append]
        omega
      rw [arguments_unique inner inner' shorter taken (same ▸ taken)]
  | binary op right =>
    cases h' with
    | binary _ right' => rw [whole.eq right (same ▸ right')]
  | logical op right =>
    cases h' with
    | logical _ right' => rw [whole.eq right (same ▸ right')]
  | @ternary _ first _ second _ left right =>
    cases h' with
    | @ternary _ first' _ second' _ left' right' =>
      obtain ⟨m, taken₁, colon, -, -⟩ := by
        simpa only [Takes.append_iff, Takes.cons_iff] using taken
      obtain ⟨m', taken₁', colon', -, -⟩ := by
        simpa only [same, Takes.append_iff, Takes.cons_iff] using taken
      obtain rfl := argument_unique left left' taken₁ taken₁'
        (by simp [colon, Connective.ofToken?]) (by simp [colon', Connective.ofToken?])
      obtain rfl := taken₁.unique taken₁'
      obtain rfl : second = second' := by simpa using same
      rw [(below first (by simp)).eq left left', (below second (by grind)).eq right right']
  | elvis right =>
    cases h' with
    | elvis right' => rw [whole.eq right (same ▸ right')]
  | assign right =>
    cases h' with
    | assign right' => rw [whole.eq right (same ▸ right')]
  | assignMember right =>
    cases h' with
    | assignMember right' => rw [whole.eq right (same ▸ right')]
  | assignIndex right =>
    cases h' with
    | assignIndex right' => rw [whole.eq right (same ▸ right')]

/-- The parser comes to the end of a word once, so both derivations split the word at the place
where the parser came from, or both do not split it. -/
theorem phrase_unique (word : List Token) : Unique word := by
  intro d d' phrase phrase'
  have below : ∀ inner : List Token, inner.length < word.length → Unique inner :=
    fun inner _ => phrase_unique inner
  obtain ⟨r, taken, last⟩ := Takes.all (ofWord word)
  rw [words_ofWord phrase.inside] at taken
  have none : Connective.ofToken? r.current.token = none := by simp [last, Connective.ofToken?]
  have ends : ∀ m : Level, m.EndsBefore r.current.token := fun m => Level.endsBefore_of_none none
  have shape : d.shape = d'.shape := by
    obtain ⟨e, found, shape⟩ := (readBack word).yields_of_none phrase taken none
    obtain ⟨e', found', shape'⟩ := (readBack word).yields_of_none phrase' taken none
    rw [shape, shape', (found.unique found').1]
  -- Where an operand is, the parser has joined nothing; behind a joint it has joined something.
  have single : ∀ {level d}, Operand level word d → ∃ e, Visits .lowest (ofWord word) 0 e r := by
    intro level d operand
    obtain ⟨e, found, -⟩ :=
      operand_complete (fun inner _ => readBack inner) operand taken (ends level)
    exact ⟨e, .operand found⟩
  have comes : ∀ {c left lhs rest d}, Phrase c.leftLevel left lhs → Joint c lhs rest d →
      word = left ++ c.token :: rest → ∃ n m e e', Visits .lowest (ofWord word) n e m ∧
        Takes (ofWord word) left m ∧ Visits .lowest (ofWord word) (n + 1) e' r := by
    intro c left lhs rest d inner joint same
    have split : Takes (ofWord word) (left ++ c.token :: rest) r := by
      rw [← same]
      exact taken
    obtain ⟨n, m, e, e', visits, front, visits', -⟩ := visits_of_joint (p := .lowest)
      (readBack left) (fun inner _ => readBack inner) inner joint (by decide) (Nat.zero_le _)
      split (ends c.level)
    exact ⟨n, m, e, e', visits, front, visits'⟩
  rcases phrase.split with operand | ⟨c, left, lhs, rest, same, -, inner, joint⟩ <;>
    rcases phrase'.split with operand' | ⟨c', left', lhs', rest', same', -, inner', joint'⟩
  · exact operand_unique below operand operand' shape
  · obtain ⟨e, visits⟩ := single operand
    obtain ⟨n, m, _, _, -, -, visits'⟩ := comes inner' joint' same'
    cases visits.once visits'
  · obtain ⟨e, visits⟩ := single operand'
    obtain ⟨n, m, _, _, -, -, visits'⟩ := comes inner joint same
    cases visits.once visits'
  · obtain ⟨n, m, e, _, visits, front, behind⟩ := comes inner joint same
    obtain ⟨n', m', e', _, visits', front', behind'⟩ := comes inner' joint' same'
    obtain rfl : n = n' := Nat.succ.inj (behind.once behind')
    obtain ⟨-, rfl⟩ := visits.unique visits'
    obtain rfl := front.unique front'
    obtain ⟨token, rfl⟩ : c.token = c'.token ∧ rest = rest' := by simpa [same] using same'
    obtain rfl : c = c' := by simpa using congrArg Connective.ofToken? token
    obtain rfl := (below left (by simp [same])).eq inner inner'
    have shorter : rest.length < word.length := by
      simp only [same, List.length_append, List.length_cons]
      omega
    obtain ⟨k, -, behind⟩ := Takes.append_iff.1 (same ▸ taken)
    exact joint_unique (fun inner le => below inner (Nat.lt_of_le_of_lt le shorter)) joint joint'
      shape (Takes.cons_iff.1 behind).2.2
termination_by word.length

/-- A word has one derivation as a statement. -/
def UniqueStatement (word : List Token) : Prop :=
  ∀ ended ended' d d', Sentence ended word d → Sentence ended' word d' → d = d'

/-- Statements that end before what is ahead of them end at the same place. -/
theorem statement_behind_unique {ended ended' : Bool} {t t' : Stmt Parens} {r' : Stream}
    (sentence : Sentence ended word t) (sentence' : Sentence ended' word' t')
    (taken : Takes s word r) (taken' : Takes s word' r') (ends : EndsAt ended t r)
    (ends' : EndsAt ended' t' r') : r = r' ∧ t.shape = t'.shape := by
  obtain ⟨u, found, shape⟩ := statement_complete sentence taken ends
  obtain ⟨u', found', shape'⟩ := statement_complete sentence' taken' ends'
  obtain ⟨rfl, rfl⟩ := found.unique found'
  exact ⟨rfl, shape.trans shape'.symm⟩

theorem parts_first {p : Part} {rest : List Part}
    (each : ∀ q ∈ p :: rest, Sentence q.ended q.words q.tree)
    (pairwise : (p :: rest).Pairwise (fun q _ => q.ended)) (last : AtEnd r)
    (taken : Takes s ((p :: rest).flatMap Part.words) r) :
    ∃ m, Takes s p.words m ∧ EndsAt p.ended p.tree m ∧ Takes m (rest.flatMap Part.words) r := by
  obtain ⟨-, later⟩ := List.forall_mem_cons.1 each
  obtain ⟨ended, pairwise⟩ := List.pairwise_cons.1 pairwise
  obtain ⟨m, first, others⟩ := Takes.append_iff.1 (List.flatMap_cons ▸ taken)
  obtain ⟨body, more, shapes⟩ := sequence_complete
    (fun q listed s r taken ends => statement_complete (later q listed) taken ends)
    pairwise last others
  refine ⟨m, first, more.endsAt last ?_, others⟩
  intro followed
  cases rest with
  | nil => simp_all
  | cons q _ => exact ended q (by simp)

theorem parts_unique {parts parts' : List Part} {s : Stream}
    (each : ∀ p ∈ parts, Sentence p.ended p.words p.tree)
    (each' : ∀ p ∈ parts', Sentence p.ended p.words p.tree)
    (pairwise : parts.Pairwise (fun p _ => p.ended))
    (pairwise' : parts'.Pairwise (fun p _ => p.ended))
    (below : ∀ p ∈ parts, UniqueStatement p.words) (last : AtEnd r)
    (taken : Takes s (parts.flatMap Part.words) r)
    (taken' : Takes s (parts'.flatMap Part.words) r) :
    parts.map Part.tree = parts'.map Part.tree := by
  induction parts generalizing parts' s with
  | nil =>
    cases parts' with
    | nil => rfl
    | cons p' rest' =>
      obtain ⟨m, first, ends, -⟩ := parts_first each' pairwise' last taken'
      obtain ⟨t, found, -⟩ := statement_complete (List.forall_mem_cons.1 each').1 first ends
      obtain rfl : s = r := by simpa using taken
      exact absurd last (opens_of_statement_gives found).2
  | cons p rest ih =>
    obtain ⟨m, first, ends, others⟩ := parts_first each pairwise last taken
    obtain ⟨here, later⟩ := List.forall_mem_cons.1 each
    cases parts' with
    | nil =>
      obtain ⟨t, found, -⟩ := statement_complete here first ends
      obtain rfl : s = r := by simpa using taken'
      exact absurd last (opens_of_statement_gives found).2
    | cons p' rest' =>
      obtain ⟨m', first', ends', others'⟩ := parts_first each' pairwise' last taken'
      obtain ⟨here', later'⟩ := List.forall_mem_cons.1 each'
      obtain ⟨unique, below⟩ := List.forall_mem_cons.1 below
      obtain ⟨rfl, -⟩ := statement_behind_unique here here' first first' ends ends'
      have words := first.unique first'
      have tree : p.tree = p'.tree := unique _ _ _ _ here (words ▸ here')
      simp only [List.map_cons, tree, List.cons.injEq, true_and]
      exact ih later later' (List.pairwise_cons.1 pairwise).2 (List.pairwise_cons.1 pairwise').2
        below others others'

theorem condition_unique {token token' : Token} {rest' : List Token}
    (phrase : Phrase .assignment word d) (phrase' : Phrase .assignment word' d')
    (same : token :: mark .leftParen :: (word ++ mark .rightParen :: rest) =
      token' :: mark .leftParen :: (word' ++ mark .rightParen :: rest'))
    (taken : Takes s (token :: mark .leftParen :: (word ++ mark .rightParen :: rest)) r) :
    word = word' ∧ rest = rest' ∧ ∃ m, Takes m rest r := by
  have taken' := taken
  rw [same] at taken'
  simp only [Takes.cons_iff, Takes.append_iff] at taken taken'
  obtain ⟨-, -, -, -, m, first, closed, -, behind⟩ := taken
  obtain ⟨-, -, -, -, m', first', closed', -, -⟩ := taken'
  obtain rfl := argument_unique phrase phrase' first first' (by simp [closed, Connective.ofToken?])
    (by simp [closed', Connective.ofToken?])
  obtain rfl := first.unique first'
  obtain ⟨-, rfl⟩ : token = token' ∧ rest = rest' := by simpa using same
  exact ⟨rfl, rfl, m.next, behind⟩

theorem endsAt_of_last {ended : Bool} {t : Stmt Parens} (last : r.current.token = .endOfInput) :
    EndsAt ended t r :=
  ⟨fun _ => .inr last, fun _ => by simp [last]⟩

/-- The semicolon behind an expression is not in it. -/
theorem semicolon_unique (phrase : Phrase .assignment word d)
    (phrase' : Phrase .assignment (word ++ [mark .semicolon]) d') : False := by
  obtain ⟨r, taken, last⟩ := Takes.all (ofWord (word ++ [mark .semicolon]))
  rw [words_ofWord phrase'.inside] at taken
  obtain ⟨m, first, semicolon⟩ := Takes.append_iff.1 taken
  have ahead := (Takes.cons_iff.1 semicolon).1
  obtain rfl := argument_unique phrase phrase' first taken (by simp [ahead, Connective.ofToken?])
    (by simp [last, Connective.ofToken?])
  simp [last] at ahead

theorem statement_unique (word : List Token) : UniqueStatement word := by
  intro ended ended' d d' sentence sentence'
  have below : ∀ inner : List Token, inner.length < word.length → UniqueStatement inner :=
    fun inner _ => statement_unique inner
  obtain ⟨r, taken, last⟩ := Takes.all (ofWord word)
  rw [words_ofWord sentence.inside] at taken
  have shape := (statement_behind_unique sentence sentence' taken taken (endsAt_of_last last)
    (endsAt_of_last last)).2
  generalize same : word = word' at sentence'
  cases sentence with
  | @expr inner e phrase =>
    cases sentence' with
    | expr phrase' =>
      obtain rfl : inner = _ := by simpa using same
      rw [(phrase_unique inner).eq phrase phrase']
    | unended phrase' => exact (semicolon_unique phrase (same ▸ phrase')).elim
    | _ => simp at shape
  | @unended _ e phrase =>
    cases sentence' with
    | expr phrase' => exact (semicolon_unique phrase' (same ▸ phrase)).elim
    | unended phrase' => rw [(phrase_unique word).eq phrase (same ▸ phrase')]
    | _ => simp at shape
  | block parts sentences pairwise =>
    cases sentence' with
    | block parts' sentences' pairwise' =>
      have words : parts.flatMap Part.words = parts'.flatMap Part.words := by simpa using same
      have shorter : ∀ p ∈ parts, UniqueStatement p.words := by
        intro p listed
        obtain ⟨front, back, rfl⟩ := List.append_of_mem listed
        refine below _ ?_
        simp only [List.flatMap_append, List.flatMap_cons, List.length_append, List.length_cons]
        omega
      simp only [List.cons_append, Takes.cons_iff, Takes.append_iff] at taken
      obtain ⟨-, -, m, taken, close, -⟩ := taken
      rw [parts_unique sentences sentences' pairwise pairwise' shorter (.inl close) taken
        (words ▸ taken)]
    | _ => simp at shape
  | ifThen phrase sentence =>
    cases sentence' with
    | ifThen phrase' sentence' =>
      simp only [List.cons_append] at same taken
      obtain ⟨rfl, rfl, -⟩ := condition_unique phrase phrase' same taken
      rw [(phrase_unique _).eq phrase phrase', below _ (by grind) _ _ _ _ sentence sentence']
    | _ => simp at shape
  | @ifElse _ _ _ inside yes other no phrase sentence nearest alternative =>
    cases sentence' with
    | @ifElse _ _ _ inside' _ other' _ phrase' sentence' nearest' alternative' =>
      simp only [List.cons_append, List.append_assoc] at same taken
      obtain ⟨rfl, same, m, behind⟩ := condition_unique phrase phrase' same taken
      have behind' := behind
      rw [same] at behind'
      obtain ⟨k, first, token, -⟩ := by simpa only [Takes.append_iff, Takes.cons_iff] using behind
      obtain ⟨k', first', token', -⟩ := by
        simpa only [Takes.append_iff, Takes.cons_iff] using behind'
      obtain ⟨rfl, -⟩ := statement_behind_unique sentence sentence' first first'
        ⟨by simp, by simp [nearest]⟩ ⟨by simp, by simp [nearest']⟩
      obtain rfl := first.unique first'
      obtain rfl : other = other' := by simpa using same
      rw [(phrase_unique _).eq phrase phrase', below _ (by grind) _ _ _ _ sentence sentence',
        below other (by grind) _ _ _ _ alternative alternative']
    | _ => simp at shape
  | loop phrase sentence =>
    cases sentence' with
    | loop phrase' sentence' =>
      simp only [List.cons_append] at same taken
      obtain ⟨rfl, rfl, -⟩ := condition_unique phrase phrase' same taken
      rw [(phrase_unique _).eq phrase phrase', below _ (by grind) _ _ _ _ sentence sentence']
    | _ => simp at shape
  | empty =>
    cases sentence' with
    | empty => rfl
    | _ => simp at shape
termination_by word.length

/-- A word has one derivation as a unit. -/
theorem whole_unique {mode : Mode} {t t' : Tree Parens} (h : Whole mode word t)
    (h' : Whole mode word t') : t = t' := by
  generalize same : word = word' at h'
  cases h with
  | expression phrase =>
    cases h' with
    | expression phrase' => rw [(phrase_unique word).eq phrase (same ▸ phrase')]
    | endedExpression phrase' => exact (semicolon_unique phrase' (same ▸ phrase)).elim
  | @endedExpression inner _ phrase =>
    cases h' with
    | expression phrase' => exact (semicolon_unique phrase (same ▸ phrase')).elim
    | endedExpression phrase' =>
      obtain rfl : inner = _ := by simpa using same
      rw [(phrase_unique inner).eq phrase phrase']
  | script parts sentences pairwise =>
    cases h' with
    | script parts' sentences' pairwise' =>
      have inside : .endOfInput ∉ parts.flatMap Part.words := by
        intro last
        obtain ⟨p, listed, last⟩ := List.mem_flatMap.1 last
        exact (sentences p listed).inside last
      obtain ⟨r, taken, last⟩ := Takes.all (ofWord (parts.flatMap Part.words))
      rw [words_ofWord inside] at taken
      rw [parts_unique sentences sentences' pairwise pairwise' (fun p _ => statement_unique p.words)
        (.inr last) taken (same ▸ taken)]

end Stream

end ExprScript
