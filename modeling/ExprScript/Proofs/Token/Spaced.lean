import ExprScript.Proofs.Token.Layout
import ExprScript.Proofs.Token.Lexemes

/-!
# Sources made of lexemes

Lexemes with one space between them tile a source, so its tokens are the tokens of the lexemes.
-/

namespace ExprScript

/-- Texts with one space between them. -/
def separated : List (List Char) → List Char
  | [] => []
  | text :: rest => text ++ rest.flatMap (' ' :: ·)

theorem spread_spaces (texts : List (List Char)) : Spread texts (texts.flatMap (' ' :: ·)) := by
  induction texts with
  | nil => exact .nil
  | cons text rest ih =>
    have blank : Text.isBlank ' ' = true := Text.isBlank_space
    have space : Spacing true [' '] := ⟨.blank blank .nil, _, _, rfl, blank⟩
    exact .lexeme text space ih

/-- The tokens of lexemes with spaces between them are the tokens of the lexemes. -/
theorem tokenize_separated {texts : List (List Char)} {word : List Token}
    (each : List.Forall₂ Lexeme texts word) :
    ∃ tokens, tokenize (separated texts) = .ok tokens ∧
      tokens.map SpannedToken.token = word ++ [.endOfInput] := by
  cases each with
  | nil => exact ⟨_, tokensFrom_of_tiled (.last .start .nil), rfl⟩
  | @cons text t texts word here later =>
    have alone (text : List Char) (t : Token) (lexeme : Lexeme text t) : Scan.Reads text t [] :=
      lexeme.reads (.inl rfl)
    have spread := spread_spaces texts
    obtain ⟨tokens, tiled, names⟩ :=
      tiled_of_spread spread (later.imp alone) (.after .start ([] ++ text))
    have whole := Tiled.token .nil here.inside ((alone _ _ here).cut (.stop spread.blank)) tiled
    exact ⟨_, tokensFrom_of_tiled whole, by simp [names]⟩

end ExprScript
