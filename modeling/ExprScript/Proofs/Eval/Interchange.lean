import ExprScript.Proofs.Double.Written
import ExprScript.Proofs.Eval.Equality

/-!
# Numbers written as strings

An operator that computes with numbers does not tell a number from a string in which it is written.
Each looks at its operands in its own way, but what they all come by is the number that an operand
is or denotes, and a written number is read back.
-/

namespace ExprScript

/-- The operators that compare. -/
def BinaryOp.relations : List BinaryOp := [.less, .lessEq, .greater, .greaterEq, .equal, .notEqual]

namespace Value

/-- An integer or a double. -/
def IsNumber (v : Value) : Prop := v.kind = .integer ∨ v.kind = .float

/-- `v.Spelled s`: the string is the text of an integer or of a finite double, with any white space
around it. -/
inductive Spelled : Value → String → Prop where
  | integer (n : Int64) {front back : List Char} (blank : ∀ c ∈ front, Text.isBlank c = true)
      (blank' : ∀ c ∈ back, Text.isBlank c = true) :
      Spelled (.integer n) (String.ofList (front ++ (render (.integer n)).toList ++ back))
  | float {x : Float} {front back : List Char} (finite : x.isFinite = true)
      (blank : ∀ c ∈ front, Text.isBlank c = true) (blank' : ∀ c ∈ back, Text.isBlank c = true) :
      Spelled (.float x) (String.ofList (front ++ (render (.float x)).toList ++ back))

/-- `v.Written w`: the operand is a number or denotes one, and stands as it is or is spelled out. -/
inductive Written : Value → Value → Prop where
  | same {v : Value} {n : Number} (numeric : v.number? = some n) : Written v v
  | spelled {v : Value} {s : String} (spelled : v.Spelled s) : Written v (.string s)

end Value

/-! ### Reading -/

theorem Value.IsNumber.number?_eq {v : Value} (h : v.IsNumber) :
    ∃ n, v.number? = some n ∧ v.kind ≠ .string := by
  cases v with
  | integer | float => exact ⟨_, rfl, by simp [kind]⟩
  | null | boolean | string | object => simp [IsNumber, kind] at h

section

variable {front back : List Char} (blank : ∀ c ∈ front, Text.isBlank c = true)
  (blank' : ∀ c ∈ back, Text.isBlank c = true)

include blank blank'

theorem Number.read?_integer (n : Int64) :
    Number.read? (front ++ Integer.digits n.toInt ++ back) = some (.int n) := by
  have nonempty : Integer.digits n.toInt ≠ [] := by
    unfold Integer.digits
    split
    · simp
    · exact Nat.toDigits_ne_nil
  rw [Number.read?_eq_int_iff, numeral_iff,
    Text.trim_padded blank blank' (Decimal.not_isBlank_digits _) nonempty, readInt?_digits]

theorem Number.read?_float {x : Float} (finite : x.isFinite = true) :
    Number.read? (front ++ (Double.text x).toList ++ back) = some (.float x) := by
  have nonempty : (Double.text x).toList ≠ [] := by
    intro none
    have read := Double.read?_text finite
    rw [none] at read
    cases read
  rw [Number.read?, Text.trim_padded blank blank' (Double.not_isBlank_of_mem_text finite) nonempty]
  simp [Integer.read?, Double.readInt?_text finite, Double.read?_text finite, finite]

end

theorem Value.Spelled.number?_eq {v : Value} {s : String} (h : v.Spelled s) :
    ∃ n, v.number? = some n ∧ (Value.string s).number? = some n := by
  cases h with
  | integer n blank blank' =>
    refine ⟨.int n, rfl, ?_⟩
    have digits : (render (.integer n)).toList = Integer.digits n.toInt := String.toList_ofList
    rw [number?, String.toList_ofList, digits]
    exact Number.read?_integer blank blank' n
  | float finite blank blank' =>
    refine ⟨.float _, rfl, ?_⟩
    rw [number?, String.toList_ofList]
    exact Number.read?_float blank blank' finite

theorem Value.Written.number?_eq {v w : Value} (h : v.Written w) :
    ∃ n, v.number? = some n ∧ w.number? = some n := by
  cases h with
  | same numeric => exact ⟨_, numeric, numeric⟩
  | spelled spelled => exact spelled.number?_eq

/-! ### Operators on numbers -/

section

variable {strict : Bool} {op : BinaryOp} {lhs rhs lhs' rhs' : Value} {a b : Number}

theorem Value.operand_of_number? {v : Value} {n : Number} (h : v.number? = some n) :
    v.operand strict = .ok (some n) := by
  rw [Value.operand_of_ne_null (by rintro rfl; cases h), h]

theorem addValues_of_numbers (left : lhs.number? = some a) (right : rhs.number? = some b) :
    addValues strict lhs rhs = .ok (Number.addition.apply a b) := by
  unfold addValues
  split
  · rw [left, right]
  · exact numericResult_of_numbers (Value.operand_of_number? left)
      (Value.operand_of_number? right) _

/-- Arithmetic depends on its operands by the numbers that they are or denote. -/
theorem arithmetic_congr (arithmetic : op ∈ BinaryOp.arithmetic)
    (left : lhs.number? = some a) (left' : lhs'.number? = some a)
    (right : rhs.number? = some b) (right' : rhs'.number? = some b) :
    op.apply strict lhs' rhs' = op.apply strict lhs rhs := by
  have operands (op : BinaryOp) :
      numericOperands strict op lhs' rhs' = numericOperands strict op lhs rhs := by
    rw [numericOperands_of_numbers (Value.operand_of_number? left) (Value.operand_of_number? right),
      numericOperands_of_numbers (Value.operand_of_number? left') (Value.operand_of_number? right')]
  simp only [BinaryOp.arithmetic, List.mem_cons, List.not_mem_nil, or_false] at arithmetic
  rcases arithmetic with rfl | rfl | rfl | rfl | rfl
  · exact (addValues_of_numbers left' right').trans (addValues_of_numbers left right).symm
  all_goals simp only [BinaryOp.apply, numericResult, divideValues, operands]

/-- So do the relations, unless both operands are strings. -/
theorem relation_congr (relation : op ∈ BinaryOp.relations)
    (mixed : ¬ (lhs.kind = .string ∧ rhs.kind = .string))
    (mixed' : ¬ (lhs'.kind = .string ∧ rhs'.kind = .string))
    (left : lhs.number? = some a) (left' : lhs'.number? = some a)
    (right : rhs.number? = some b) (right' : rhs'.number? = some b) :
    op.apply strict lhs' rhs' = op.apply strict lhs rhs := by
  have equality : equalValues lhs' rhs' = equalValues lhs rhs := by
    rw [equalValues_of_numbers mixed left right, equalValues_of_numbers mixed' left' right']
  have order (op : BinaryOp) (holds : Ordering → Bool) :
      relate strict op holds lhs' rhs' = relate strict op holds lhs rhs := by
    rw [relate_of_compares (.numbers mixed left right),
      relate_of_compares (.numbers mixed' left' right')]
  simp only [BinaryOp.relations, List.mem_cons, List.not_mem_nil, or_false] at relation
  rcases relation with rfl | rfl | rfl | rfl | rfl | rfl <;>
    simp only [BinaryOp.apply, order, equality]

end

/-- A number may be written as a string. -/
theorem spelled_interchangeable (strict : Bool) {v : Value} {s : String} (spelled : v.Spelled s) :
    (∀ op ∈ BinaryOp.arithmetic, ∀ w w', w.Written w' →
      op.apply strict (.string s) w' = op.apply strict v w ∧
      op.apply strict w' (.string s) = op.apply strict w v) ∧
    (∀ op ∈ BinaryOp.relations, ∀ w, w.IsNumber →
      op.apply strict (.string s) w = op.apply strict v w ∧
      op.apply strict w (.string s) = op.apply strict w v) ∧
    UnaryOp.negate.apply strict (.string s) = UnaryOp.negate.apply strict v := by
  obtain ⟨n, number, number'⟩ := spelled.number?_eq
  have plain : v.kind ≠ .string := by cases spelled <;> simp [Value.kind]
  refine ⟨fun op arithmetic w w' written => ?_, fun op relation w isNumber => ?_, ?_⟩
  · obtain ⟨m, other, other'⟩ := written.number?_eq
    exact ⟨arithmetic_congr arithmetic number number' other other',
      arithmetic_congr arithmetic other other' number number'⟩
  · obtain ⟨m, other, plain'⟩ := isNumber.number?_eq
    exact ⟨relation_congr relation (fun texts => plain texts.1) (fun texts => plain' texts.2)
        number number' other other,
      relation_congr relation (fun texts => plain texts.2) (fun texts => plain' texts.1)
        other other number number'⟩
  · simp only [UnaryOp.apply, Value.operand_of_number? number, Value.operand_of_number? number']
    rfl

/-- A double in white space and an integer, both as strings. -/
theorem spelled_interchangeable_padded :
    ((Value.float 2.5).Spelled " 2.5\n" ∧ BinaryOp.modulo ∈ BinaryOp.arithmetic ∧
      (Value.integer 7).Written (.string "7") ∧
      BinaryOp.modulo.apply true (.string "7") (.string " 2.5\n") =
        BinaryOp.modulo.apply true (.integer 7) (.float 2.5)) ∧
    BinaryOp.lessEq ∈ BinaryOp.relations ∧ (Value.integer 7).IsNumber ∧
      BinaryOp.lessEq.apply true (.string " 2.5\n") (.integer 7) =
        BinaryOp.lessEq.apply true (.float 2.5) (.integer 7) := by
  have text : " 2.5\n" = String.ofList ([' '] ++ (Value.render (.float 2.5)).toList ++ ['\n']) := by
    decide +kernel
  have spelled : (Value.float 2.5).Spelled " 2.5\n" := by
    rw [text]
    exact .float (by decide) (List.forall_mem_singleton.2 rfl) (List.forall_mem_singleton.2 rfl)
  have text' : "7" = String.ofList ([] ++ (Value.render (.integer 7)).toList ++ []) := by
    decide +kernel
  have spelled' : (Value.integer 7).Spelled "7" := by
    rw [text']
    exact .integer 7 (by simp) (by simp)
  obtain ⟨arithmetic, relation, -⟩ := spelled_interchangeable true spelled
  exact ⟨⟨spelled, by decide, .spelled spelled',
      (arithmetic _ (by decide) _ _ (.spelled spelled')).2⟩,
    by decide, .inl rfl, (relation _ (by decide) _ (.inl rfl)).1⟩

end ExprScript
