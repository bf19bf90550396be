import ExprScript.Text.Search

/-!
# What a search finds

A search finds the first place of a part in a text, and fails only where there is none. A part
without a place is replaced nowhere.
-/

namespace ExprScript.Text

/-- `FirstAt part text place`: the part stands in the text behind so many signs, and not earlier. -/
def FirstAt {α : Type} (part text : List α) (place : Nat) : Prop :=
  part <+: text.drop place ∧ ∀ earlier < place, ¬ part <+: text.drop earlier

/-- There is at most one first place. -/
theorem FirstAt.eq {α : Type} {part text : List α} {i j : Nat} (h : FirstAt part text i)
    (h' : FirstAt part text j) : i = j := by
  rcases Nat.lt_trichotomy i j with less | same | greater
  · exact absurd h.1 (h'.2 i less)
  · exact same
  · exact absurd h'.1 (h.2 j greater)

variable {part text : List Char} {i : Nat}

/-- What does not stand in front and has no place behind the first sign has none at all. -/
theorem absent_cons {c : Char} (front : ¬ part <+: c :: text)
    (behind : ∀ i, ¬ part <+: text.drop i) : ∀ i, ¬ part <+: (c :: text).drop i
  | 0 => front
  | i + 1 => behind i

/-- A search finds the first place, or there is none. -/
theorem find?_cases (part text : List Char) :
    (∃ i, find? part text = some i ∧ FirstAt part text i) ∨
      find? part text = none ∧ ∀ i, ¬ part <+: text.drop i := by
  induction text with
  | nil =>
    cases part with
    | nil => exact .inl ⟨0, rfl, List.nil_prefix, fun _ less => absurd less (Nat.not_lt_zero _)⟩
    | cons c part => exact .inr ⟨rfl, fun i => by simp⟩
  | cons c text ih =>
    by_cases front : part <+: c :: text
    · have found : find? part (c :: text) = some 0 := by
        rw [find?, if_pos (List.isPrefixOf_iff_prefix.2 front)]
      exact .inl ⟨0, found, front, fun _ less => absurd less (Nat.not_lt_zero _)⟩
    · have later : find? part (c :: text) = (find? part text).map (· + 1) := by
        rw [find?, if_neg (mt List.isPrefixOf_iff_prefix.1 front)]
      rcases ih with ⟨i, found, place, first⟩ | ⟨nothing, absent⟩
      · refine .inl ⟨i + 1, by rw [later, found, Option.map_some], place, ?_⟩
        intro earlier less
        cases earlier with
        | zero => exact front
        | succ earlier => exact first earlier (Nat.lt_of_succ_lt_succ less)
      · exact .inr ⟨by rw [later, nothing, Option.map_none], absent_cons front absent⟩

theorem find?_eq_some_iff : find? part text = some i ↔ FirstAt part text i := by
  rcases find?_cases part text with ⟨j, found, first⟩ | ⟨nothing, absent⟩
  · rw [found, Option.some.injEq]
    constructor
    · rintro rfl
      exact first
    · exact first.eq
  · rw [nothing]
    exact ⟨nofun, fun first => absurd first.1 (absent i)⟩

theorem find?_eq_none_iff : find? part text = none ↔ ∀ i, ¬ part <+: text.drop i := by
  rcases find?_cases part text with ⟨i, found, first⟩ | ⟨nothing, absent⟩
  · rw [found]
    exact ⟨nofun, fun absent => absurd first.1 (absent i)⟩
  · exact ⟨fun _ => absent, fun _ => nothing⟩

theorem find?_eq_zero_iff : find? part text = some 0 ↔ part <+: text := by
  rw [find?_eq_some_iff]
  exact ⟨fun first => first.1, fun front => ⟨front, fun _ less => absurd less (Nat.not_lt_zero _)⟩⟩

/-- A part is found within the text. -/
theorem le_length_of_find? (found : find? part text = some i) : i ≤ text.length := by
  obtain ⟨place, first⟩ := find?_eq_some_iff.1 found
  refine Nat.le_of_not_lt fun beyond => first text.length beyond ?_
  -- Behind the text there is nothing, so what stands there stands at its end too.
  rw [List.drop_of_length_le (Nat.le_of_lt beyond)] at place
  rwa [List.drop_length]

theorem replaceFrom_of_absent (absent : ∀ i, ¬ part <+: text.drop i) (new : List Char) :
    replaceFrom part new 0 text = text := by
  induction text with
  | nil => rfl
  | cons c text ih =>
    have front : ¬ part.isPrefixOf (c :: text) = true := mt List.isPrefixOf_iff_prefix.1 (absent 0)
    rw [replaceFrom, if_neg front, ih fun i => absent (i + 1)]

/-- Nothing is replaced where there is nothing to replace. -/
theorem replace_of_find?_eq_none (nonempty : part ≠ []) (nothing : find? part text = none)
    (new : List Char) : replace part new text = text := by
  rw [replace, if_neg (by simpa using nonempty)]
  exact replaceFrom_of_absent (find?_eq_none_iff.1 nothing) new

end ExprScript.Text
