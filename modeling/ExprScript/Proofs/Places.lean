import ExprScript.Proofs.Parse.Places
import ExprScript.Proofs.RoundTrip.Range

/-!
# Positions are true

Whatever becomes of a source, all positions that are told of it are those of places in it: in its
tokens, in the nodes and names of its tree, and in the error if it has no tree.
-/

namespace ExprScript

variable {source : List Char} {tokens : List SpannedToken}

theorem Stream.laid_ofTokens (h : tokenize source = .ok tokens) :
    (Stream.ofTokens tokens).Laid source tokens := by
  have tiled : Tiled Scan.Reads .start source tokens := tiled_of_tokensFrom h
  obtain ⟨front, split, -⟩ := tiled.ends
  have last : ⟨.endOfInput, .point (.after .start source)⟩ ∈ tokens := by simp [split]
  exact ⟨List.Subset.refl _, fun t => placed_of_mem_tiled tiled, tiled.pairwise, ⟨_, last, rfl⟩,
    fun t _ => Nat.zero_le _⟩

/-- How a syntax error is shown: by the text of its span, which is empty exactly when the end token
was found in the place of another one. -/
structure SyntaxError.Shown (source : List Char) (tokens : List SpannedToken) (e : SyntaxError) :
    Prop where
  span : e.span.In source
  /-- A token found in the place of another one is a token of the source, with this span. -/
  found : ∀ t, e.cause.found? = some t → ⟨t, e.span⟩ ∈ tokens
  empty : e.span.extract? source = some [] ↔ e.cause.found? = some .endOfInput
  atEnd : e.cause.found? = some .endOfInput → e.render source =
    "[line " ++ toString e.span.start.line ++ "] Error" ++ " at end" ++ ": " ++ e.cause.text
  atText : e.cause.found? ≠ some .endOfInput → ∃ lexeme,
    lexeme ≠ [] ∧ e.span.extract? source = some lexeme ∧ e.render source =
      "[line " ++ toString e.span.start.line ++ "] Error" ++
        (" at '" ++ String.ofList lexeme ++ "'") ++ ": " ++ e.cause.text

theorem SyntaxError.Placed.shown {e : SyntaxError} (h : e.Placed source tokens) :
    e.Shown source tokens := by
  have empty := (h.span.extract?_eq_nil_iff).trans h.empty
  refine ⟨h.span, h.found, empty, fun last => ?_, fun other => ?_⟩
  · simp only [render, empty.2 last]
  · obtain ⟨before, lexeme, behind, -, -, -, extracts⟩ := h.span
    cases lexeme with
    | nil => exact absurd (empty.1 extracts) other
    | cons c lexeme =>
      exact ⟨c :: lexeme, List.cons_ne_nil _ _, extracts, by simp only [render, extracts]⟩

/-- All positions that are told of a source are those of places in it. -/
structure TruePlaces (source : List Char) (mode : Mode) : Prop where
  tokens : ∀ tokens, tokenize source = .ok tokens → ∀ t ∈ tokens, t.Placed source
  tree : ∀ unit, compile source mode = .ok unit → unit.tree.Situated source
  lexError : ∀ e, compile source mode = .error (.lex e) → e.position.In source
  syntaxError : ∀ e, compile source mode = .error (.parse e) →
    ∃ tokens, tokenize source = .ok tokens ∧ e.Shown source tokens

theorem situated_of_parse {tree : Tree Span} {mode : Mode} (read : tokenize source = .ok tokens)
    (h : parse tokens mode = .ok tree) : tree.Situated source := by
  have places := Stream.unit_places mode (Stream.laid_ofTokens read)
  unfold parse at h
  generalize (Stream.ofTokens tokens).unit mode = outcome at places h
  cases outcome with
  | done tree' _ _ =>
    obtain rfl := Except.ok.inj h
    exact places
  | failed error _ => cases h

theorem placed_of_parse_error {e : SyntaxError} {mode : Mode} (read : tokenize source = .ok tokens)
    (h : parse tokens mode = .error e) : e.Placed source tokens := by
  have places := Stream.unit_places mode (Stream.laid_ofTokens read)
  unfold parse at h
  generalize (Stream.ofTokens tokens).unit mode = outcome at places h
  cases outcome with
  | done tree _ _ => cases h
  | failed error _ =>
    obtain rfl := Except.error.inj h
    exact places

/-- A source that is not compiled has no tokens, or its tokens are not those of a unit. -/
theorem of_compile_error {e : CompileError} {mode : Mode} (h : compile source mode = .error e) :
    (∃ fault, tokenize source = .error fault ∧ e = .lex fault) ∨
      ∃ tokens fault, tokenize source = .ok tokens ∧ parse tokens mode = .error fault ∧
        e = .parse fault := by
  unfold compile compileTree at h
  cases read : tokenize source with
  | error fault => exact .inl ⟨fault, rfl, by simpa [read, Except.map, eq_comm] using h⟩
  | ok tokens =>
    cases parsed : parse tokens mode with
    | error fault =>
      refine .inr ⟨tokens, fault, rfl, parsed, ?_⟩
      simpa [read, parsed, Except.map, Except.mapError, eq_comm] using h
    | ok tree => simp [read, parsed, Except.map, Except.mapError] at h

/-- Whatever source is compiled, all positions that are told of it are true. -/
theorem compile_places (source : List Char) (mode : Mode) : TruePlaces source mode := by
  refine ⟨fun tokens read t => placed_of_mem_tiled (tiled_of_tokensFrom read), ?_, ?_, ?_⟩
  · intro unit compiled
    obtain ⟨tokens, read, tree, parsed, rfl⟩ := compile_eq_ok_iff.1 compiled
    exact situated_of_parse read parsed
  · intro e failed
    rcases of_compile_error failed with ⟨fault, read, same⟩ | ⟨tokens, fault, -, -, same⟩
    · cases same
      exact in_of_tokenize_error read
    · cases same
  · intro e failed
    rcases of_compile_error failed with ⟨fault, -, same⟩ | ⟨tokens, fault, read, parsed, same⟩
    · cases same
    · cases same
      exact ⟨tokens, read, (placed_of_parse_error read parsed).shown⟩

end ExprScript
