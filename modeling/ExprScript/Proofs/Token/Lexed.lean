import ExprScript.Proofs.Token.Lexemes
import ExprScript.Proofs.Token.Tiling

/-!
# The tokens that sources have

A name in a source has the shape of a name and is not reserved, and an integer has no sign. All
other tokens occur.
-/

namespace ExprScript

/-- The tokens that are scanned of some text. -/
def Token.Lexed : Token → Prop
  | identifier name => IsVariable name
  | integer n => 0 ≤ n.toInt
  | _ => True

namespace Scan

/-- Digits alone denote no negative number. -/
theorem nonneg_of_read? {text : List Char} {n : Int64} (digits : IsDigits text)
    (h : Integer.read? text = some n) : 0 ≤ n.toInt := by
  rw [Integer.read?, digits.readInt?_eq, Option.bind_some] at h
  rw [Integer.toInt_of_fit? h]
  exact Int.natCast_nonneg _

theorem lexed_word {text : String} (h : IsWord text) : (word text).Lexed := by
  rcases word_cases text with ⟨free, same⟩ | ⟨k, same, -⟩ | ⟨s, same⟩
  · rw [same]
    exact ⟨h, free⟩
  · rw [same]
    trivial
  · rw [same]
    trivial

theorem Reads.lexed {lexeme rest : List Char} {t : Token} (h : Reads lexeme t rest) : t.Lexed := by
  cases h with
  | integer digits read => exact nonneg_of_read? digits read
  | word start all => exact lexed_word ⟨_, _, String.toList_ofList, start, all⟩
  | _ => trivial

end Scan

theorem lexed_of_mem_tokenize {source : List Char} {tokens : List SpannedToken}
    (h : tokenize source = .ok tokens) : ∀ t ∈ tokens, t.token.Lexed := by
  intro t mem
  by_cases inside : t.token = .endOfInput
  · rw [inside]
    trivial
  · have tiled : Tiled Scan.Reads .start source tokens := tiled_of_tokensFrom h
    obtain ⟨_, _, _, -, -, read⟩ := tiled.read_of_mem mem inside
    exact read.lexed

end ExprScript
