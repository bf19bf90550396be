import ExprScript.Proofs.Parse.Segments
import ExprScript.Proofs.Places

/-!
# The texts of nodes

The text of a node has the tokens that the node covers, and no others. It compiles to the node again
unless an opening parenthesis is missing in it: the span of a node starts with its first operand, and
leaves out the parentheses in front of this operand while those behind it are inside.
-/

namespace ExprScript

open Grammar Scan

namespace Tiled

variable {reads : List Char → Token → List Char → Prop} {p : Position} {text : List Char}
  {front run later : List SpannedToken}

/-- From the start of a token on, the text has this token and those behind it. -/
theorem drop_front {t : SpannedToken} (inside : t.token ≠ .endOfInput)
    (h : Tiled reads p text (front ++ t :: later)) :
    ∃ before rest, text = before ++ rest ∧ t.span.start = p.after before ∧
      Tiled reads (p.after before) rest (t :: later) := by
  induction front generalizing p text with
  | nil =>
    rw [List.nil_append] at h
    cases h with
    | last => exact absurd rfl inside
    | @token _ gap lexeme rest _ _ _ _ read tiled =>
      rw [Position.after_append] at tiled ⊢
      have whole : Tiled reads (p.after gap) ([] ++ lexeme ++ rest) _ :=
        .token .nil inside read tiled
      exact ⟨gap, lexeme ++ rest, by simp, rfl, whole⟩
  | cons first front ih =>
    rw [List.cons_append] at h
    generalize more : front ++ t :: later = tokens at h
    cases h with
    | last => simp at more
    | @token _ gap lexeme rest _ _ _ _ _ tiled =>
      subst more
      obtain ⟨before, rest, rfl, start, tiled⟩ := ih tiled
      rw [← Position.after_append] at start tiled
      exact ⟨gap ++ lexeme ++ before, rest, by simp, start, tiled⟩

/-- Up to the end of the last of some tokens the text has these tokens, wherever it starts. -/
theorem take_run (nonempty : run ≠ []) (inside : ∀ t ∈ run, t.token ≠ .endOfInput)
    (h : Tiled Reads p text (run ++ later)) :
    ∃ front behind, text = front ++ behind ∧
      (∀ t ∈ run.getLast?, t.span.stop = p.after front) ∧
      ∀ q, ∃ tokens, Tiled Reads q front tokens ∧
        tokens.map SpannedToken.token = run.map SpannedToken.token ++ [.endOfInput] := by
  induction run generalizing p text with
  | nil => exact absurd rfl nonempty
  | cons t more ih =>
    obtain ⟨here, inside'⟩ := List.forall_mem_cons.1 inside
    rw [List.cons_append] at h
    generalize behind : more ++ later = tokens at h
    cases h with
    | last => exact absurd rfl here
    | @token _ gap lexeme rest t _ separator _ read tiled =>
      subst behind
      cases more with
      | nil =>
        refine ⟨gap ++ lexeme, rest, rfl, by simp, fun q => ?_⟩
        have ended : Reads lexeme t [] := read.cut (.of_isPrefix List.nil_prefix)
        have tiled : Tiled Reads q (gap ++ lexeme ++ []) _ :=
          .token separator here ended (.last _ .nil)
        rw [List.append_nil] at tiled
        exact ⟨_, tiled, rfl⟩
      | cons next more =>
        obtain ⟨front, behind, rfl, stop, each⟩ := ih (List.cons_ne_nil _ _) inside' tiled
        refine ⟨gap ++ lexeme ++ front, behind, by simp, fun t last => ?_, fun q => ?_⟩
        · rw [Position.after_append]
          exact stop t (by simpa using last)
        · obtain ⟨tokens, tiled, same⟩ := each (q.after (gap ++ lexeme))
          have cut : Reads lexeme t front := read.cut (.of_isPrefix (List.prefix_append _ _))
          exact ⟨_, .token separator here cut tiled, by simp [same]⟩

end Tiled

variable {source : List Char} {tokens run : List SpannedToken}

/-- The text of a span that covers some tokens of the source has just these tokens. -/
theorem tokenize_excerpt {span : Span} (read : tokenize source = .ok tokens)
    (part : run <:+: tokens) (inside : ∀ t ∈ run, t.token ≠ .endOfInput) (covers : span.Covers run) :
    ∃ text tokens', span.extract? source = some text ∧ tokenize text = .ok tokens' ∧
      tokens'.map SpannedToken.token = run.map SpannedToken.token ++ [.endOfInput] := by
  have tiled : Tiled Reads .start source tokens := tiled_of_tokensFrom read
  obtain ⟨front, later, rfl⟩ := part
  obtain ⟨t, first, start⟩ := covers.first
  obtain ⟨t', last, stop⟩ := covers.last
  obtain ⟨more, rfl⟩ := List.head?_eq_some_iff.1 first
  rw [List.append_assoc] at tiled
  obtain ⟨before, rest, rfl, start', tiled⟩ := tiled.drop_front (inside t List.mem_cons_self)
  obtain ⟨text, behind, rfl, stop', each⟩ := Tiled.take_run (List.cons_ne_nil _ _) inside tiled
  obtain ⟨tokens', tiled', same⟩ := each .start
  have ends : span = ⟨.after .start before, .after .start (before ++ text)⟩ := by
    rw [Position.after_append, ← stop' t' last, ← stop, ← start', ← start]
  refine ⟨text, tokens', ?_, tokensFrom_of_tiled tiled', same⟩
  rw [ends, ← List.append_assoc]
  exact Span.extract?_between before text behind

/-- All nodes of an expression that is parsed cover runs of its tokens. -/
theorem among_of_parse {e : Expr Span} (read : tokenize source = .ok tokens)
    (parsed : parse tokens .expression = .ok (.expression e)) : ∀ n ∈ e.nodes, n.Among tokens := by
  obtain ⟨r, found⟩ := parse_eq_ok_iff.1 parsed
  obtain ⟨_, m, found, same, -⟩ := Stream.unit_expression.1 found
  cases same
  have along : Stream.Along source tokens (.ofTokens tokens) :=
    ⟨Stream.laid_ofTokens read, List.suffix_refl _⟩
  exact (Stream.expression_segment _ along _ _ _ found).nodes

/-- The parentheses in a unit of one expression are paired. -/
theorem Grammar.Whole.parensPaired {word : List Token} {d : Tree Parens}
    (h : Whole .expression word d) : ParensPaired word := by
  cases h with
  | expression phrase => exact phrase.parensPaired
  | endedExpression phrase =>
    exact phrase.parensPaired.append (parensPaired_single (by simp) (by simp))

/-- The text of a node of an expression compiles to this node again if the parentheses in it are
paired, and does not compile if they are not. -/
theorem compile_excerpt {unit : CompiledUnit} (compiled : compile source .expression = .ok unit)
    {n : Expr Span} (listed : n ∈ unit.tree.exprs) :
    ∃ text tokens, n.span.extract? source = some text ∧ tokenize text = .ok tokens ∧
      (ParensPaired (tokens.map SpannedToken.token) → ∃ unit',
        compile text .expression = .ok unit' ∧ unit'.tree.shape = .expression n.shape) ∧
      (¬ ParensPaired (tokens.map SpannedToken.token) →
        ∀ unit', compile text .expression ≠ .ok unit') := by
  obtain ⟨tokens, read, tree, parsed, rfl⟩ := compile_eq_ok_iff.1 compiled
  obtain ⟨r, found⟩ := parse_eq_ok_iff.1 parsed
  obtain ⟨e, -, -, rfl, -⟩ := Stream.unit_expression.1 found
  obtain ⟨run, part, inside, written⟩ := among_of_parse read parsed n listed
  obtain ⟨text, tokens', extracts, read', same⟩ := tokenize_excerpt read part inside written.covers
  have word : wordOf tokens' = run.map SpannedToken.token := by
    rw [wordOf, same, List.takeWhile_append_of_pos (by simpa using inside)]
    simp
  have paired : ParensPaired (tokens'.map SpannedToken.token) ↔
      ParensPaired (run.map SpannedToken.token) := by
    rw [same, ParensPaired, ParensPaired, List.count_append, List.count_append]
    rfl
  refine ⟨text, tokens', extracts, read', fun h => ?_, fun h unit' compiled' => h ?_⟩
  · obtain ⟨d, phrase, shape⟩ := written.phrase (paired.1 h)
    rw [compile_iff_whole read', word]
    exact ⟨_, .expression phrase, congrArg Tree.expression shape⟩
  · obtain ⟨d, whole, -⟩ := (compile_iff_whole read').1 ⟨unit', compiled', rfl⟩
    rw [word] at whole
    exact paired.2 whole.parensPaired

/-- The sum lacks the parenthesis that opens around its first operand; the operand has none. -/
theorem compile_excerpt_operand : ∃ unit sum operand text text' unit',
    compile "(1) + 2".toList .expression = .ok unit ∧
    sum ∈ unit.tree.exprs ∧ sum.span.extract? "(1) + 2".toList = some text ∧
    text = "1) + 2".toList ∧ (∀ other, compile text .expression ≠ .ok other) ∧
    operand ∈ unit.tree.exprs ∧ operand.span.extract? "(1) + 2".toList = some text' ∧
    text' = "1".toList ∧ compile text' .expression = .ok unit' ∧
    unit'.tree.shape = .expression operand.shape := by
  obtain ⟨unit, compiled⟩ := exists_of_isOk (x := compile "(1) + 2".toList .expression)
    (by decide +kernel)
  have texts : (compile "(1) + 2".toList .expression).map (fun unit =>
      unit.tree.exprs.map fun n => n.span.extract? "(1) + 2".toList) =
        .ok [some "1) + 2".toList, some "1".toList, some "2".toList] := by decide +kernel
  rw [compiled] at texts
  obtain ⟨sum, rest, first, textOfSum, others⟩ := List.map_eq_cons_iff.1 (Except.ok.inj texts)
  obtain ⟨operand, rest, second, textOfOperand, -⟩ := List.map_eq_cons_iff.1 others
  have listed : sum ∈ unit.tree.exprs := by simp [first]
  have listed' : operand ∈ unit.tree.exprs := by simp [first, second]
  obtain ⟨text, tokens, extracts, read, -, fails⟩ := compile_excerpt compiled listed
  obtain ⟨text', tokens', extracts', read', again, -⟩ := compile_excerpt compiled listed'
  obtain rfl := Option.some.inj (textOfSum.symm.trans extracts)
  obtain rfl := Option.some.inj (textOfOperand.symm.trans extracts')
  have unpaired : (tokenize "1) + 2".toList).map (fun tokens =>
      decide (ParensPaired (tokens.map SpannedToken.token))) = .ok false := by decide +kernel
  have paired : (tokenize "1".toList).map (fun tokens =>
      decide (ParensPaired (tokens.map SpannedToken.token))) = .ok true := by decide +kernel
  rw [read] at unpaired
  rw [read'] at paired
  have closed := fails (of_decide_eq_false (Except.ok.inj unpaired))
  obtain ⟨unit', compiled', shape⟩ := again (of_decide_eq_true (Except.ok.inj paired))
  exact ⟨unit, sum, operand, _, _, unit', compiled, listed, extracts, rfl, closed, listed',
    extracts', rfl, compiled', shape⟩

/-- The text of a sum with its first operand in parentheses does not compile. -/
theorem excerpt_cuts_parentheses : ∃ unit n text,
    compile "(1) + 2".toList .expression = .ok unit ∧ n ∈ unit.tree.exprs ∧
    n.span.extract? "(1) + 2".toList = some text ∧
    ¬ ∃ unit', compile text .expression = .ok unit' ∧
      unit'.tree.shape = .expression n.shape := by
  obtain ⟨unit, compiled⟩ := exists_of_isOk (x := compile "(1) + 2".toList .expression)
    (by decide +kernel)
  have text : (compile "(1) + 2".toList .expression).map (fun unit =>
      unit.tree.exprs.head?.bind fun n => n.span.extract? "(1) + 2".toList) =
        .ok (some "1) + 2".toList) := by decide +kernel
  rw [compiled] at text
  obtain ⟨n, first, extracts⟩ := Option.bind_eq_some_iff.1 (Except.ok.inj text)
  refine ⟨unit, n, _, compiled, List.mem_of_mem_head? first, extracts, fun ⟨unit', again, _⟩ => ?_⟩
  have fails : (compile "1) + 2".toList .expression).isOk = false := by decide +kernel
  rw [again] at fails
  cases fails

end ExprScript
