import Mathlib.Data.Fintype.Card
import Mathlib.Data.Nat.Bitwise
import ExprScript.Pattern.Matching

/-!
# What a pattern matches

Which parts of a text a pattern matches is told by its parts, without sets of places. The places
that the matching algorithm finds are those where such a match ends; in particular it gives up a
repetition without an upper bound only when no further round could reach another place.
-/

namespace ExprScript.Pattern

/-- As many rounds of a relation, one behind the other. -/
inductive Rounds (R : Nat → Nat → Prop) : Nat → Nat → Nat → Prop where
  | none (i : Nat) : Rounds R 0 i i
  | more {n i j k : Nat} (first : R i j) (rest : Rounds R n j k) : Rounds R (n + 1) i k

/-- The character in front of a place. -/
def before? (text : List Char) : Nat → Option Char
  | 0 => none
  | i + 1 => text[i]?

end ExprScript.Pattern

namespace ExprScript

open Pattern

/-- `pattern.Matches text i j`: the pattern matches what stands between two places of a text. -/
def Pattern.Matches (text : List Char) : Pattern → Nat → Nat → Prop
  | .empty, i, j => j = i
  | .step set, i, j => j = i + 1 ∧ ∃ c, text[i]? = some c ∧ set.contains c.toNat = true
  | .look look, i, j => j = i ∧ i ≤ text.length ∧ look.holds (before? text i) text[i]? = true
  | .seq r s, i, k => ∃ j, Matches text r i j ∧ Matches text s j k
  | .alt r s, i, j => Matches text r i j ∨ Matches text s i j
  | .iterate least most r, i, j =>
    ∃ rounds, least ≤ rounds ∧ (∀ bound ∈ most, rounds ≤ max least bound) ∧
      Rounds (Matches text r) rounds i j

end ExprScript

namespace ExprScript.Pattern

section

variable {R : Nat → Nat → Prop} {m n i j k count : Nat} {f : Places → Places} {places more : Places}

theorem Rounds.append (first : Rounds R m i j) (second : Rounds R n j k) : Rounds R (m + n) i k := by
  induction first with
  | none => simpa using second
  | @more m i j' j step _ ih =>
    rw [Nat.add_right_comm]
    exact .more step (ih second)

theorem Rounds.split (rounds : Rounds R (m + n) i k) : ∃ j, Rounds R m i j ∧ Rounds R n j k := by
  induction m generalizing i with
  | zero => exact ⟨i, .none i, by simpa using rounds⟩
  | succ m ih =>
    rw [Nat.add_right_comm] at rounds
    cases rounds with
    | more step rest =>
      obtain ⟨j, first, second⟩ := ih rest
      exact ⟨j, .more step first, second⟩

/-- A set that a relation does not leave is not left by any number of rounds. -/
theorem Rounds.stays (rounds : Rounds R n i j)
    (closed : ∀ i j, places.testBit i = true → R i j → places.testBit j = true)
    (start : places.testBit i = true) : places.testBit j = true := by
  induction rounds with
  | none => exact start
  | more step _ ih => exact ih (closed _ _ start step)

theorem Rounds.within (rounds : Rounds R n i j) (inside : ∀ i j, i < count → R i j → j < count)
    (start : i < count) : j < count := by
  induction rounds with
  | none => exact start
  | more step _ ih => exact ih (inside _ _ start step)

namespace Places

/-- A set of some of the first `count` places. -/
def Within (count : Nat) (places : Places) : Prop := ∀ i, places.testBit i = true → i < count

/-- A function of sets finds the places that a relation leads to. -/
structure Finds (count : Nat) (f : Places → Places) (R : Nat → Nat → Prop) : Prop where
  finds : ∀ places, Within count places → ∀ j,
    (f places).testBit j = true ↔ ∃ i, places.testBit i = true ∧ R i j
  inside : ∀ i j, i < count → R i j → j < count

theorem Finds.within (h : Finds count f R) (start : Within count places) :
    Within count (f places) := by
  intro j found
  obtain ⟨i, listed, related⟩ := (h.finds places start j).1 found
  exact h.inside i j (start i listed) related

theorem Within.lor (h : Within count places) (h' : Within count more) :
    Within count (places ||| more) := by
  intro i listed
  rw [Nat.testBit_or, Bool.or_eq_true] at listed
  exact listed.elim (h i) (h' i)

/-- The places that are missing in a set. -/
def missing (count : Nat) (places : Places) : Finset Nat :=
  (Finset.range count).filter fun i => places.testBit i = false

theorem missing_lor_lt (inside : Within count more) (grows : places ||| more ≠ places) :
    (missing count (places ||| more)).card < (missing count places).card := by
  obtain ⟨i, differs⟩ := Nat.exists_testBit_ne_of_ne grows
  have absent : places.testBit i = false := by
    rw [Nat.testBit_or] at differs
    cases h : places.testBit i with
    | false => rfl
    | true => simp [h] at differs
  have added : more.testBit i = true := by
    rw [Nat.testBit_or, absent] at differs
    simpa using differs
  refine Finset.card_lt_card ⟨fun j => ?_, fun all => ?_⟩
  · simp only [missing, Finset.mem_filter, Nat.testBit_or, Bool.or_eq_false_iff]
    exact fun both => ⟨both.1, both.2.1⟩
  · have listed : i ∈ missing count places := by simp [missing, absent, inside i added]
    have kept := all listed
    simp [missing, added] at kept

theorem testBit_ofList (flags : List Bool) (i : Nat) :
    (ofList flags).testBit i = flags[i]?.getD false := by
  induction flags generalizing i with
  | nil => simp [ofList]
  | cons flag rest ih =>
    cases i with
    | zero => cases flag <;> simp [ofList, Nat.testBit_zero]
    | succ i =>
      rw [ofList, Nat.testBit_succ]
      have half : (flag.toNat + 2 * ofList rest) / 2 = ofList rest := by
        have bit := flag.toNat_lt
        omega
      rw [half, ih]
      simp

end Places

open Places

theorem finds_afterSteps (h : Finds count f R) (n : Nat) :
    Finds count (afterSteps f n) (Rounds R n) := by
  refine ⟨?_, fun i j start rounds => rounds.within h.inside start⟩
  induction n with
  | zero =>
    intro places _ j
    constructor
    · exact fun found => ⟨j, found, .none j⟩
    · rintro ⟨i, listed, ⟨⟩⟩
      exact listed
  | succ n ih =>
    intro places start j
    rw [afterSteps, ih _ (h.within start)]
    constructor
    · rintro ⟨i, found, rounds⟩
      obtain ⟨i', listed, step⟩ := (h.finds places start i).1 found
      exact ⟨i', listed, .more step rounds⟩
    · rintro ⟨i, listed, ⟨⟩⟩
      rename_i i' step rounds
      exact ⟨i', (h.finds places start i').2 ⟨i, listed, step⟩, rounds⟩

/-- A step that adds no place leaves the set. -/
theorem closed_of_lor_eq (h : Finds count f R) (start : Within count places)
    (same : places ||| f places = places) (i j : Nat) (listed : places.testBit i = true)
    (related : R i j) : places.testBit j = true := by
  rw [← same, Nat.testBit_or, (h.finds places start j).2 ⟨i, listed, related⟩, Bool.or_true]

theorem testBit_withinSteps (h : Finds count f R) (bound : Nat) (start : Within count places)
    (k : Nat) : (withinSteps f bound places).testBit k = true ↔
      ∃ i n, places.testBit i = true ∧ n ≤ bound ∧ Rounds R n i k := by
  induction bound generalizing places with
  | zero =>
    constructor
    · exact fun listed => ⟨k, 0, listed, Nat.le_refl 0, .none k⟩
    · rintro ⟨i, n, listed, few, rounds⟩
      obtain rfl := Nat.le_zero.1 few
      cases rounds
      exact listed
  | succ bound ih =>
    rw [withinSteps]
    split
    · rename_i same
      constructor
      · exact fun listed => ⟨k, 0, listed, Nat.zero_le _, .none k⟩
      · rintro ⟨i, n, listed, -, rounds⟩
        exact rounds.stays (closed_of_lor_eq h start same) listed
    · rw [ih (start.lor (h.within start))]
      simp only [Nat.testBit_or, Bool.or_eq_true, h.finds places start]
      constructor
      · rintro ⟨i, n, listed | ⟨i', listed, step⟩, few, rounds⟩
        · exact ⟨i, n, listed, by omega, rounds⟩
        · exact ⟨i', n + 1, listed, by omega, .more step rounds⟩
      · rintro ⟨i, n, listed, few, rounds⟩
        cases rounds with
        | none => exact ⟨k, 0, .inl listed, Nat.zero_le _, .none k⟩
        | @more n _ j _ step rest => exact ⟨j, n, .inr ⟨i, listed, step⟩, by omega, rest⟩

/-- With a step for every missing place, the set found is not left any more. -/
theorem closed_withinSteps (h : Finds count f R) (bound : Nat) (start : Within count places)
    (enough : (missing count places).card ≤ bound) (i j : Nat)
    (found : (withinSteps f bound places).testBit i = true) (related : R i j) :
    (withinSteps f bound places).testBit j = true := by
  induction bound generalizing places with
  | zero =>
    have full : missing count places = ∅ := Finset.card_eq_zero.1 (Nat.le_zero.1 enough)
    have inside := h.inside i j (start i found) related
    by_contra absent
    have listed : j ∈ missing count places := by simp_all [missing, withinSteps]
    simp [full] at listed
  | succ bound ih =>
    rw [withinSteps] at found ⊢
    split at found
    · rename_i same
      rw [if_pos same]
      exact closed_of_lor_eq h start same i j found related
    · rename_i grows
      rw [if_neg grows]
      have fewer := missing_lor_lt (h.within start) grows
      exact ih (start.lor (h.within start)) (by omega) found

/-- As many steps as there are places find what any number of rounds leads to. -/
theorem testBit_withinSteps_count (h : Finds count f R) (start : Within count places) (k : Nat) :
    (withinSteps f count places).testBit k = true ↔
      ∃ i n, places.testBit i = true ∧ Rounds R n i k := by
  constructor
  · intro found
    obtain ⟨i, n, listed, -, rounds⟩ := (testBit_withinSteps h count start k).1 found
    exact ⟨i, n, listed, rounds⟩
  · rintro ⟨i, n, listed, rounds⟩
    have enough : (missing count places).card ≤ count :=
      (Finset.card_filter_le _ _).trans (Finset.card_range count).le
    have begun : (withinSteps f count places).testBit i = true :=
      (testBit_withinSteps h count start i).2 ⟨i, 0, listed, Nat.zero_le _, .none i⟩
    exact rounds.stays (closed_withinSteps h count start enough) begun

/-- The rounds that are required, and then those that are allowed besides. -/
theorem finds_iterate (h : Finds count f R) (least : Nat) (most : Option Nat) :
    Finds count
      (fun places => withinSteps f (most.elim count (· - least)) (afterSteps f least places))
      (fun i j => ∃ rounds, least ≤ rounds ∧ (∀ bound ∈ most, rounds ≤ max least bound) ∧
        Rounds R rounds i j) := by
  have required := finds_afterSteps h least
  refine ⟨fun places start k => ?_, fun i j start ⟨_, _, _, rounds⟩ => rounds.within h.inside start⟩
  cases most with
  | none =>
    simp only [Option.elim, testBit_withinSteps_count h (required.within start),
      required.finds places start]
    constructor
    · rintro ⟨j, n, ⟨i, listed, first⟩, rest⟩
      exact ⟨i, listed, least + n, by omega, by simp, first.append rest⟩
    · rintro ⟨i, listed, rounds, enough, -, all⟩
      obtain ⟨extra, rfl⟩ := Nat.exists_eq_add_of_le enough
      obtain ⟨j, first, rest⟩ := all.split
      exact ⟨j, extra, ⟨i, listed, first⟩, rest⟩
  | some bound =>
    simp only [Option.elim, testBit_withinSteps h _ (required.within start),
      required.finds places start, Option.mem_some_iff, forall_eq']
    constructor
    · rintro ⟨j, n, ⟨i, listed, first⟩, few, rest⟩
      exact ⟨i, listed, least + n, by omega, by omega, first.append rest⟩
    · rintro ⟨i, listed, rounds, enough, few, all⟩
      obtain ⟨extra, rfl⟩ := Nat.exists_eq_add_of_le enough
      obtain ⟨j, first, rest⟩ := all.split
      exact ⟨j, extra, ⟨i, listed, first⟩, by omega, rest⟩

end

open Places

section

variable (text : List Char)

theorem testBit_placesOfSet (set : CharSet) (i : Nat) :
    (placesOfSet text set).testBit i = true ↔
      ∃ c, text[i]? = some c ∧ set.contains c.toNat = true := by
  rw [placesOfSet, Places.testBit_ofList, List.getElem?_map]
  cases text[i]? <;> simp

theorem getElem?_characters_before (i : Nat) :
    (none :: text.map some)[i]? = if i ≤ text.length then some (before? text i) else none := by
  cases i with
  | zero => simp [before?]
  | succ i =>
    rw [List.getElem?_cons_succ, List.getElem?_map, before?]
    by_cases inside : i < text.length
    · simp [inside, Nat.succ_le_of_lt inside]
    · rw [if_neg (Nat.not_le.2 (Nat.lt_succ_of_le (Nat.not_lt.1 inside)))]
      simpa using inside

theorem getElem?_characters_after (i : Nat) :
    (text.map some ++ [none])[i]? = if i ≤ text.length then some text[i]? else none := by
  rcases Nat.lt_trichotomy i text.length with inside | rfl | outside
  · rw [List.getElem?_append_left (by simpa)]
    simp [inside, inside.le]
  · simp
  · rw [List.getElem?_append_right (by simpa using outside.le)]
    have : i - text.length ≠ 0 := by omega
    simp [outside, this]

theorem testBit_placesOfLook (look : Look) (i : Nat) :
    (placesOfLook text look).testBit i = true ↔
      i ≤ text.length ∧ look.holds (before? text i) text[i]? = true := by
  rw [placesOfLook, Places.testBit_ofList, List.getElem?_zipWith, getElem?_characters_before,
    getElem?_characters_after]
  by_cases inside : i ≤ text.length <;> simp [inside]

/-- The leaves of a pattern, with the places in a text for them. -/
abbrev leaves (pattern : Pattern) : Regex Places Places :=
  pattern.map (placesOfSet text) (placesOfLook text)

/-- The places that are found are those where a match ends. -/
theorem finds_ends (pattern : Pattern) :
    Finds (text.length + 1) ((leaves text pattern).ends (text.length + 1))
      (pattern.Matches text) := by
  induction pattern with
  | empty =>
    refine ⟨fun places _ j => ?_, fun i j start same => ?_⟩
    · simp [leaves, Regex.map, Regex.ends, Pattern.Matches]
    · rwa [show j = i from same]
  | step set =>
    refine ⟨fun places start j => ?_, ?_⟩
    · simp only [leaves, Regex.map, Regex.ends, Nat.testBit_shiftLeft, Bool.and_eq_true,
        decide_eq_true_eq, Nat.testBit_and, testBit_placesOfSet, Pattern.Matches]
      constructor
      · rintro ⟨behind, listed, passed⟩
        exact ⟨j - 1, listed, by omega, passed⟩
      · rintro ⟨i, listed, rfl, passed⟩
        exact ⟨by omega, listed, passed⟩
    · rintro i j start ⟨rfl, c, here, -⟩
      have := (List.getElem?_eq_some_iff.1 here).1
      omega
  | look look =>
    refine ⟨fun places start j => ?_, ?_⟩
    · simp only [leaves, Regex.map, Regex.ends, Nat.testBit_and, Bool.and_eq_true,
        testBit_placesOfLook, Pattern.Matches]
      constructor
      · rintro ⟨listed, inside, holds⟩
        exact ⟨j, listed, rfl, inside, holds⟩
      · rintro ⟨i, listed, rfl, inside, holds⟩
        exact ⟨listed, inside, holds⟩
    · rintro i j start ⟨rfl, -⟩
      exact start
  | seq r s ihr ihs =>
    refine ⟨fun places start k => ?_, ?_⟩
    · simp only [leaves, Regex.map, Regex.ends, Pattern.Matches]
      rw [ihs.finds _ (ihr.within start)]
      simp only [ihr.finds places start]
      constructor
      · rintro ⟨j, ⟨i, listed, first⟩, second⟩
        exact ⟨i, listed, j, first, second⟩
      · rintro ⟨i, listed, j, first, second⟩
        exact ⟨j, ⟨i, listed, first⟩, second⟩
    · rintro i k start ⟨j, first, second⟩
      exact ihs.inside j k (ihr.inside i j start first) second
  | alt r s ihr ihs =>
    refine ⟨fun places start j => ?_, ?_⟩
    · simp only [leaves, Regex.map, Regex.ends, Pattern.Matches, Nat.testBit_or, Bool.or_eq_true]
      rw [ihr.finds places start, ihs.finds places start]
      simp only [and_or_left, exists_or]
    · rintro i j start (first | second)
      · exact ihr.inside i j start first
      · exact ihs.inside i j start second
  | iterate least most r ih =>
    have rounds := finds_iterate ih least most
    cases most <;> exact rounds

end

end ExprScript.Pattern

namespace ExprScript

open Pattern

/-- A pattern occurs in a text just when it matches some part of it. -/
theorem Pattern.occursIn_iff (pattern : Pattern) (text : List Char) :
    pattern.occursIn text = true ↔ ∃ i j, i ≤ text.length ∧ pattern.Matches text i j := by
  have starts (i : Nat) : (Places.ofList (List.replicate (text.length + 1) true)).testBit i = true ↔
      i ≤ text.length := by
    rw [Places.testBit_ofList, List.getElem?_replicate]
    by_cases inside : i < text.length + 1 <;> simp [inside] <;> omega
  have all : Places.Within (text.length + 1) (.ofList (List.replicate (text.length + 1) true)) :=
    fun i listed => Nat.lt_succ_of_le ((starts i).1 listed)
  have nonempty (places : Places) : (places != 0) = true ↔ ∃ j, places.testBit j = true := by
    rw [bne_iff_ne]
    exact ⟨Nat.exists_testBit_of_ne_zero, fun ⟨j, listed⟩ none => by simp [none] at listed⟩
  rw [occursIn, nonempty]
  simp only [(finds_ends text pattern).finds _ all, starts]
  exact exists_comm.trans (by simp only [exists_and_left])

/-- Between the start and the end of the text there is only the text as a whole. -/
theorem Pattern.occursIn_between_ends (pattern : Pattern) (text : List Char) :
    Pattern.occursIn (.seq (.seq (.look .textStart) pattern) (.look .textStop)) text = true ↔
      pattern.Matches text 0 text.length := by
  rw [occursIn_iff]
  constructor
  · rintro ⟨_, _, -, j, ⟨i, ⟨rfl, inside, first⟩, matched⟩, -, inside', last⟩
    have at_start : i = 0 := by
      cases i with
      | zero => rfl
      | succ i => simp [Look.holds, before?, Nat.not_le.2 (Nat.lt_of_succ_le inside)] at first
    have at_stop : j = text.length := by
      have behind : text.length ≤ j := by simpa [Look.holds] using last
      omega
    rwa [at_start, at_stop] at matched
  · intro matched
    exact ⟨0, text.length, Nat.zero_le _, text.length,
      ⟨0, ⟨rfl, Nat.zero_le _, rfl⟩, matched⟩, rfl, Nat.le_refl _, by simp [Look.holds]⟩

end ExprScript
