import ExprScript.Proofs.Grammar.Unambiguous

/-!
# The parser is exact

The parser accepts the words of the grammar and no others, and what it returns is the tree of the
only derivation.
-/

namespace ExprScript

open Grammar

/-- The word that a token sequence stands for: its tokens up to the end of the input. -/
def Grammar.wordOf (tokens : List SpannedToken) : List Token :=
  (tokens.map SpannedToken.token).takeWhile (· ≠ .endOfInput)

/-- It makes no difference whether the end of the input is marked. -/
theorem Grammar.wordOf_append_end (tokens : List SpannedToken) (span : Span) :
    wordOf (tokens ++ [⟨.endOfInput, span⟩]) = wordOf tokens := by
  induction tokens with
  | nil => rfl
  | cons t rest ih =>
    by_cases last : t.token = .endOfInput
    · simp [wordOf, last]
    · simpa [wordOf, last] using ih

theorem parse_eq_ok_iff {tokens : List SpannedToken} {mode : Mode} {tree : Tree Span} :
    parse tokens mode = .ok tree ↔ ∃ r, ((Stream.ofTokens tokens).unit mode).Gives tree r := by
  unfold parse
  cases (Stream.ofTokens tokens).unit mode with
  | done tree' rest fewer => simp
  | failed error rest => simp

/-- The shapes of the trees that parsing returns are those of the derivations of the word, and a
word has one derivation at most. -/
theorem parse_exact (tokens : List SpannedToken) (mode : Mode) :
    (∀ t : Tree Unit, (∃ tree, parse tokens mode = .ok tree ∧ tree.shape = t) ↔
      ∃ d, Whole mode (wordOf tokens) d ∧ d.shape = t) ∧
    ∀ d d', Whole mode (wordOf tokens) d → Whole mode (wordOf tokens) d' → d = d' := by
  refine ⟨fun t => ⟨?_, ?_⟩, fun d d' => Stream.whole_unique⟩
  · rintro ⟨tree, accepted, rfl⟩
    obtain ⟨r, found⟩ := parse_eq_ok_iff.1 accepted
    exact Stream.unit_sound found
  · rintro ⟨d, whole, rfl⟩
    obtain ⟨tree, r, found, shape⟩ := Stream.unit_complete (s := Stream.ofTokens tokens) whole
    exact ⟨tree, parse_eq_ok_iff.2 ⟨r, found⟩, shape.symm⟩

end ExprScript
