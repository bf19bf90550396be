import ExprScript.Proofs.Double.Order
import ExprScript.Proofs.Eval.Operands

/-!
# Equality and order of values

Equality and the four relations are decided apart, by different cases of their operands. They agree
all the same, because what can be compared is either two texts or two numbers, and on these equality
is the order of equals. The relation `Compares` tells which values have which order; everything said
of the operators is read off it.
-/

namespace ExprScript

/-! ### Numbers -/

namespace Number

theorem compare?_swap (a b : Number) : b.compare? a = (a.compare? b).map Ordering.swap := by
  cases a with
  | float x => cases b <;> exact Double.compareFloats_swap _ _
  | int m =>
    cases b with
    | float y => exact Double.compareFloats_swap _ _
    | int n => simp [compare?, Int.compare_swap]

theorem compare?_eq_iff (a b : Number) : a.compare? b = some .eq ↔ a.same b = true := by
  cases a with
  | float x => cases b <;> exact Double.compareFloats_eq_iff _ _
  | int m =>
    cases b with
    | float y => exact Double.compareFloats_eq_iff _ _
    | int n => simp [compare?, same, Int64.toInt_inj]

theorem compare?_eq_none_iff (a b : Number) :
    a.compare? b = none ↔ a.toFloat.isNaN = true ∨ b.toFloat.isNaN = true := by
  cases a with
  | float x => cases b <;> exact Double.compareFloats_eq_none_iff _ _
  | int m =>
    cases b with
    | float y => exact Double.compareFloats_eq_none_iff _ _
    | int n =>
      simp only [compare?, toFloat, Double.isNaN_toFloat, reduceCtorEq, Bool.false_eq_true, or_self]

theorem same_comm (a b : Number) : a.same b = b.same a := by
  rw [Bool.eq_iff_iff, ← compare?_eq_iff, ← compare?_eq_iff, compare?_swap a b]
  simp

/-- A string denotes no double that is not a number. -/
theorem isNaN_of_read? {text : List Char} {n : Number} (h : read? text = some n) :
    n.toFloat.isNaN = false := by
  unfold read? at h
  dsimp only at h
  split at h
  · cases h
    exact Double.isNaN_toFloat _
  · simp only [Option.map_eq_some_iff, Option.filter_eq_some_iff] at h
    obtain ⟨x, ⟨-, finite⟩, rfl⟩ := h
    exact Double.not_isNaN_of_isFinite finite

end Number

namespace Value

/-- A double that is not a number. -/
def IsNaN (v : Value) : Prop := ∃ x, v = .float x ∧ x.isNaN = true

theorem isNaN_iff {v : Value} {n : Number} (h : v.number? = some n) :
    n.toFloat.isNaN = true ↔ v.IsNaN := by
  cases v with
  | null | boolean | object => cases h
  | integer m =>
    cases h
    simp only [IsNaN, Number.toFloat, Double.isNaN_toFloat, reduceCtorEq, Bool.false_eq_true,
      false_and, exists_false]
  | float x =>
    cases h
    constructor
    · intro noNumber
      exact ⟨x, rfl, noNumber⟩
    · rintro ⟨_, ⟨⟩, noNumber⟩
      exact noNumber
  | string s =>
    simp only [IsNaN, Number.isNaN_of_read? h, reduceCtorEq, Bool.false_eq_true, false_and,
      exists_false]

end Value

/-! ### Values that can be compared -/

/-- `Compares lhs rhs order`: the values are two texts, or at most one text and both numbers, and
this is their order. -/
inductive Compares : Value → Value → Option Ordering → Prop where
  | texts (a b : String) :
      Compares (.string a) (.string b) (some (Text.compare a.toList b.toList))
  | numbers {lhs rhs : Value} {m n : Number} (mixed : ¬ (lhs.kind = .string ∧ rhs.kind = .string))
      (left : lhs.number? = some m) (right : rhs.number? = some n) :
      Compares lhs rhs (m.compare? n)

theorem Value.kind_eq_string_iff {v : Value} : v.kind = .string ↔ ∃ s, v = .string s := by
  cases v <;> simp [Value.kind]

section

variable {strict : Bool} {op : BinaryOp} {lhs rhs : Value} {order : Option Ordering}

theorem compareValues_of_compares (h : Compares lhs rhs order) :
    compareValues strict op lhs rhs = .ok order := by
  cases h with
  | texts => rfl
  | numbers mixed left right =>
    unfold compareValues
    split
    · exact absurd ⟨rfl, rfl⟩ mixed
    · cases left
    · cases right
    · rename_i nonnull nonnull' _
      rw [numericOperands_of_ne_null nonnull nonnull', left, right]
      rfl

/-- Values that cannot be compared are refused by naming their types. -/
theorem compareValues_cases (strict : Bool) (op : BinaryOp) (lhs rhs : Value) :
    (∃ order, Compares lhs rhs order) ∨
      compareValues strict op lhs rhs =
        .error (.type (.binaryOperands op lhs.typeName rhs.typeName)) := by
  unfold compareValues
  split
  · exact .inl ⟨_, .texts _ _⟩
  · exact .inr rfl
  · exact .inr rfl
  · rename_i nonnull nonnull' texts
    rw [numericOperands_of_ne_null nonnull nonnull']
    cases left : lhs.number? with
    | none => exact .inr rfl
    | some m =>
      cases right : rhs.number? with
      | none => exact .inr rfl
      | some n =>
        refine .inl ⟨_, .numbers ?_ left right⟩
        rintro ⟨text, text'⟩
        obtain ⟨a, rfl⟩ := Value.kind_eq_string_iff.1 text
        obtain ⟨b, rfl⟩ := Value.kind_eq_string_iff.1 text'
        exact texts a b rfl rfl

theorem compareValues_eq_ok_iff :
    compareValues strict op lhs rhs = .ok order ↔ Compares lhs rhs order := by
  constructor
  · intro compared
    rcases compareValues_cases strict op lhs rhs with ⟨order', h⟩ | refused
    · rw [compareValues_of_compares h] at compared
      cases compared
      exact h
    · cases refused.symm.trans compared
  · exact compareValues_of_compares

theorem compareValues_error {e : EvalCause} (h : compareValues strict op lhs rhs = .error e) :
    e = .type (.binaryOperands op lhs.typeName rhs.typeName) := by
  rcases compareValues_cases strict op lhs rhs with ⟨order, compares⟩ | refused
  · cases (compareValues_of_compares compares).symm.trans h
  · cases refused.symm.trans h
    rfl

theorem relate_of_compares (h : Compares lhs rhs order) (holds : Ordering → Bool) :
    relate strict op holds lhs rhs = .ok (.boolean (order.any holds)) := by
  rw [relate, compareValues_of_compares h]
  rfl

/-! ### Equality -/

theorem equalValues_of_numbers {m n : Number}
    (mixed : ¬ (lhs.kind = .string ∧ rhs.kind = .string)) (left : lhs.number? = some m)
    (right : rhs.number? = some n) : equalValues lhs rhs = m.same n := by
  unfold equalValues
  split
  · cases left
  · cases left
  · cases right
  · exact absurd ⟨rfl, rfl⟩ mixed
  · split
    · rw [left, right]
    · split
      · cases left
      · cases left
      · rw [left, right]

theorem equalValues_of_text (nonnull : lhs ≠ .null) (nonnull' : rhs ≠ .null)
    (mixed : ¬ (lhs.kind = .string ∧ rhs.kind = .string))
    (text : lhs.kind = .string ∨ rhs.kind = .string) :
    equalValues lhs rhs = match lhs.number?, rhs.number? with
      | some m, some n => m.same n
      | _, _ => lhs.render == rhs.render := by
  unfold equalValues
  split
  · exact absurd rfl nonnull
  · exact absurd rfl nonnull
  · exact absurd rfl nonnull'
  · exact absurd ⟨rfl, rfl⟩ mixed
  · exact if_pos text

theorem equalValues_comm (lhs rhs : Value) : equalValues lhs rhs = equalValues rhs lhs := by
  by_cases nonnull : lhs = .null
  · subst nonnull
    cases rhs <;> rfl
  by_cases nonnull' : rhs = .null
  · subst nonnull'
    cases lhs <;> rfl
  by_cases text : lhs.kind = .string ∨ rhs.kind = .string
  · by_cases texts : lhs.kind = .string ∧ rhs.kind = .string
    · obtain ⟨a, rfl⟩ := Value.kind_eq_string_iff.1 texts.1
      obtain ⟨b, rfl⟩ := Value.kind_eq_string_iff.1 texts.2
      exact BEq.comm
    · rw [equalValues_of_text nonnull nonnull' texts text,
        equalValues_of_text nonnull' nonnull (fun h => texts h.symm) text.symm]
      cases lhs.number? with
      | none => cases rhs.number? <;> exact BEq.comm
      | some m =>
        cases rhs.number? with
        | none => exact BEq.comm
        | some n => exact Number.same_comm m n
  · cases lhs <;> cases rhs <;>
      simp_all [equalValues, Value.kind, Value.number?, ObjectRef.same, Number.same_comm,
        Bool.beq_comm]

/-! ### What the order says of equality -/

namespace Compares

theorem swap (h : Compares lhs rhs order) : Compares rhs lhs (order.map Ordering.swap) := by
  cases h with
  | texts a b =>
    rw [Option.map_some, ← Text.compare_swap]
    exact .texts b a
  | numbers mixed left right =>
    rw [← Number.compare?_swap]
    exact .numbers (fun texts => mixed texts.symm) right left

theorem eq_iff (h : Compares lhs rhs order) : order = some .eq ↔ equalValues lhs rhs = true := by
  cases h with
  | texts a b => simp [equalValues, Text.compare_eq_iff, String.toList_inj]
  | numbers mixed left right =>
    rw [equalValues_of_numbers mixed left right, Number.compare?_eq_iff]

theorem eq_none_iff (h : Compares lhs rhs order) : order = none ↔ lhs.IsNaN ∨ rhs.IsNaN := by
  cases h with
  | texts => simp [Value.IsNaN]
  | numbers mixed left right =>
    rw [Number.compare?_eq_none_iff, Value.isNaN_iff left, Value.isNaN_iff right]

end Compares

end

/-- The answers of equality and of the four relations on two values. -/
structure Relations (strict : Bool) (lhs rhs : Value)
    (less equal greater lessEq greaterEq : Bool) : Prop where
  less : BinaryOp.less.apply strict lhs rhs = .ok (.boolean less)
  equal : BinaryOp.equal.apply strict lhs rhs = .ok (.boolean equal)
  greater : BinaryOp.greater.apply strict lhs rhs = .ok (.boolean greater)
  lessEq : BinaryOp.lessEq.apply strict lhs rhs = .ok (.boolean lessEq)
  greaterEq : BinaryOp.greaterEq.apply strict lhs rhs = .ok (.boolean greaterEq)

theorem Compares.relations {lhs rhs : Value} {order : Option Ordering}
    (h : Compares lhs rhs order) (strict : Bool) :
    Relations strict lhs rhs (order.any (·.isLT)) (order == some .eq) (order.any (·.isGT))
      (order.any (·.isLE)) (order.any (·.isGE)) where
  less := relate_of_compares h _
  equal := by
    have same : (order == some .eq) = equalValues lhs rhs := by
      rw [Bool.eq_iff_iff, beq_iff_eq]
      exact h.eq_iff
    rw [same]
    rfl
  greater := relate_of_compares h _
  lessEq := relate_of_compares h _
  greaterEq := relate_of_compares h _

/-- Equality and order cohere. Equality is symmetric. Two values can be compared in both directions,
with reverse orders, or in neither; their order is that of equals exactly when they are equal, and
they have none exactly when one is not a number. So of less, equal and greater one is true, or none
of the five relations is where there is no order. -/
theorem equality_order_coherent (strict : Bool) (op : BinaryOp) (a b : Value) :
    equalValues a b = equalValues b a ∧
    ((∃ e, compareValues strict op a b = .error e) ↔
      ∃ e, compareValues strict op b a = .error e) ∧
    (∀ e, compareValues strict op a b = .error e ∨ compareValues strict op b a = .error e →
      ∃ fault, e = .type fault) ∧
    ∀ order, compareValues strict op a b = .ok order →
      compareValues strict op b a = .ok (order.map Ordering.swap) ∧
      (order = some .eq ↔ equalValues a b = true) ∧
      (order = none ↔ a.IsNaN ∨ b.IsNaN) ∧
      (order.isSome → ∃ less equal greater, [less, equal, greater].count true = 1 ∧
        Relations strict a b less equal greater (less || equal) (greater || equal)) ∧
      (a.IsNaN ∨ b.IsNaN → Relations strict a b false false false false false) := by
  refine ⟨equalValues_comm a b, ?_, ?_, fun order compared => ?_⟩
  · have fails {x y : Value} (failed : ∃ e, compareValues strict op x y = .error e) :
        ∃ e, compareValues strict op y x = .error e := by
      obtain ⟨e, failed⟩ := failed
      rcases compareValues_cases strict op y x with ⟨order, h⟩ | refused
      · cases (compareValues_of_compares h.swap).symm.trans failed
      · exact ⟨_, refused⟩
    exact ⟨fails, fails⟩
  · rintro e (failed | failed)
    · exact ⟨_, compareValues_error failed⟩
    · exact ⟨_, compareValues_error failed⟩
  · have h : Compares a b order := compareValues_eq_ok_iff.1 compared
    refine ⟨compareValues_of_compares h.swap, h.eq_iff, h.eq_none_iff, fun ordered => ?_,
      fun noNumber => ?_⟩
    · obtain ⟨found, rfl⟩ := Option.isSome_iff_exists.1 ordered
      have relations := h.relations strict
      cases found with
      | lt => exact ⟨true, false, false, rfl, relations⟩
      | eq => exact ⟨false, true, false, rfl, relations⟩
      | gt => exact ⟨false, false, true, rfl, relations⟩
    · obtain rfl := h.eq_none_iff.2 noNumber
      exact h.relations strict

end ExprScript
