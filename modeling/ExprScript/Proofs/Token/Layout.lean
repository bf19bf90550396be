import Mathlib.Data.List.Forall2
import ExprScript.Proofs.Token.Tiling

/-!
# Layouts of lexemes

Lexemes can be written with any separators between them that start with white space. No lexeme goes
on over the white space behind it and none grows together with the next, so the tokens of the source
are the tokens of the lexemes.
-/

namespace ExprScript

open Scan

/-- A separator that starts with white space; a closed one goes with any text behind it. -/
structure Spacing (closed : Bool) (gap : List Char) : Prop where
  separator : Separator closed gap
  spaced : ∃ c rest, gap = c :: rest ∧ Text.isBlank c = true

/-- `Spread lexemes text`: the text is the lexemes in order, with a separator in front of each and
one or nothing at the end. All separators start with white space. -/
inductive Spread : List (List Char) → List Char → Prop where
  | nil : Spread [] []
  | last {gap : List Char} (spacing : Spacing false gap) : Spread [] gap
  | lexeme (lexeme : List Char) {gap text : List Char} {lexemes : List (List Char)}
      (spacing : Spacing true gap) (later : Spread lexemes text) :
      Spread (lexeme :: lexemes) (gap ++ lexeme ++ text)

/-- A lexeme ends where lexemes are spread behind it. -/
theorem Spread.blank {lexemes : List (List Char)} {text : List Char} (h : Spread lexemes text) :
    ∀ c ∈ text.head?, Text.isBlank c = true := by
  cases h with
  | nil => simp
  | last spacing =>
    obtain ⟨c, rest, rfl, blank⟩ := spacing.spaced
    simpa using blank
  | lexeme _ spacing later =>
    obtain ⟨c, rest, rfl, blank⟩ := spacing.spaced
    simpa using blank

/-- Texts that are tokens by themselves are these tokens when they are spread. -/
theorem tiled_of_spread {lexemes : List (List Char)} {text : List Char} {word : List Token}
    (h : Spread lexemes text) (each : List.Forall₂ (fun lexeme t => Reads lexeme t []) lexemes word)
    (p : Position) : ∃ tokens, Tiled Reads p text tokens ∧
      tokens.map SpannedToken.token = word ++ [.endOfInput] := by
  induction h generalizing word p with
  | nil =>
    cases each
    exact ⟨_, .last p .nil, rfl⟩
  | last spacing =>
    cases each
    exact ⟨_, .last p spacing.separator, rfl⟩
  | @lexeme lexeme gap text lexemes spacing later ih =>
    obtain _ | ⟨reads, others⟩ := each
    obtain ⟨tokens, tiled, same⟩ := ih others (p.after (gap ++ lexeme))
    have ends : Reads lexeme _ text := reads.cut (.stop later.blank)
    exact ⟨_, .token spacing.separator reads.ne_end ends tiled, by simp [same]⟩

/-- The lexemes of a source: the texts of the spans of its tokens, except for the end token. -/
def LexemesOf (source : List Char) (tokens : List SpannedToken) (lexemes : List (List Char)) :
    Prop :=
  tokens.dropLast.map (fun t => t.span.extract? source) = lexemes.map some

/-- Each lexeme of a source is its token by itself. -/
theorem reads_of_lexemesOf {source : List Char} {tokens : List SpannedToken}
    {lexemes : List (List Char)} (tiled : Tiled Reads .start source tokens)
    (h : LexemesOf source tokens lexemes) :
    List.Forall₂ (fun lexeme t => Reads lexeme t []) lexemes
      (tokens.dropLast.map SpannedToken.token) := by
  obtain ⟨front, split, inside⟩ := tiled.ends
  have part : tokens.dropLast = front := by rw [split, List.dropLast_concat]
  have listed : ∀ t ∈ front, t ∈ tokens := by
    intro t found
    rw [split]
    exact List.mem_append_left _ found
  replace h : List.Forall₂ (fun t lexeme => t.span.extract? source = some lexeme) front
      lexemes := by
    rw [LexemesOf, part, ← List.forall₂_eq_eq_eq] at h
    exact List.forall₂_map_right_iff.1 (List.forall₂_map_left_iff.1 h)
  rw [part]
  refine List.forall₂_map_right_iff.2 (List.Forall₂.flip ?_)
  clear split part
  induction h with
  | nil => exact .nil
  | @cons t lexeme front lexemes text _ ih =>
    obtain ⟨here, later⟩ := List.forall_mem_cons.1 inside
    obtain ⟨mem, others⟩ := List.forall_mem_cons.1 listed
    refine .cons ?_ (ih later others)
    obtain ⟨before, part, rest, whole, span, reads⟩ := tiled.read_of_mem mem here
    have extracted := Span.extract?_between before part rest
    rw [← whole, ← span, text] at extracted
    obtain rfl := Option.some.inj extracted
    exact reads.cut (.stop (by simp))

/-- The lexemes of a source with other separators have its tokens. -/
theorem tokenize_of_spread {source other : List Char} {tokens : List SpannedToken}
    {lexemes : List (List Char)} (h : tokenize source = .ok tokens)
    (texts : LexemesOf source tokens lexemes) (spread : Spread lexemes other) :
    ∃ tokens', tokenize other = .ok tokens' ∧
      tokens'.map SpannedToken.token = tokens.map SpannedToken.token := by
  have tiled : Tiled Reads .start source tokens := tiled_of_tokensFrom h
  obtain ⟨tokens', tiled', same⟩ := tiled_of_spread spread (reads_of_lexemesOf tiled texts) .start
  obtain ⟨front, split, -⟩ := tiled.ends
  refine ⟨tokens', tokensFrom_of_tiled tiled', ?_⟩
  rw [same, split, List.dropLast_concat]
  simp

end ExprScript
