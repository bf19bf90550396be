import ExprScript.Proofs.Eval.Interchange
import ExprScript.Proofs.Evaluating

/-!
# Values and their texts

The empty string added to a value makes its text. A value is equal to its text: where the text is
read as a number it is the number that was written, and else the two are compared as texts, the
doubles without digits among them.
-/

namespace ExprScript

open Grammar

/-! ### Texts -/

/-- A double that is not finite is written in letters. -/
theorem Double.text_of_not_finite {x : Float} (endless : x.isFinite = false) :
    text x ∈ ["NaN", "inf", "-inf"] := by
  rw [text, textWith]
  cases number : x.isNaN with
  | true => exact List.mem_cons_self
  | false =>
    rw [isInf_of_not_finite endless number]
    cases isNegative x with
    | true => exact List.mem_cons_of_mem _ (List.mem_cons_of_mem _ List.mem_cons_self)
    | false => exact List.mem_cons_of_mem _ List.mem_cons_self

/-- Letters are not read as numbers. -/
theorem Number.read?_of_not_finite {x : Float} (endless : x.isFinite = false) :
    read? (Double.text x).toList = none := by
  have unread : ∀ text ∈ ["NaN", "inf", "-inf"], read? text.toList = none := by decide +kernel
  exact unread _ (Double.text_of_not_finite endless)

theorem addValues_empty (strict : Bool) (v : Value) :
    addValues strict (.string "") v = .ok (.string v.render) := by
  have none : (Value.string "").number? = none := by decide +kernel
  rw [addValues, if_pos (.inl rfl), none]
  exact congrArg (fun text => Except.ok (Value.string text)) String.empty_append

namespace Value

/-- A number that is written in digits is equal to what is read of it. -/
theorem equalValues_of_spelled {v : Value} {s : String} (spelled : v.Spelled s) :
    equalValues (.string s) v = true := by
  obtain ⟨n, number, number'⟩ := spelled.number?_eq
  have plain : v.kind ≠ .string := by cases spelled <;> simp [kind]
  rw [equalValues_of_numbers (fun texts => plain texts.2) number' number]
  cases spelled with
  | integer n =>
    cases number
    exact beq_self_eq_true n
  | float finite =>
    cases number
    exact Double.beq_self (Double.not_isNaN_of_isFinite finite)

/-- A number may stand without white space around it. -/
theorem Spelled.bare {v : Value}
    (spelled : v.Spelled (String.ofList ([] ++ v.render.toList ++ []))) : v.Spelled v.render := by
  rwa [List.nil_append, List.append_nil, String.ofList_toList] at spelled

/-- What is not read as a number is compared by its text. -/
theorem equalValues_of_unread {v : Value} (nonnull : v ≠ .null) (plain : v.kind ≠ .string)
    (unread : v.number? = none ∨ Number.read? v.render.toList = none) :
    equalValues (.string v.render) v = true := by
  have texts : ((string v.render).render == v.render) = true := beq_self_eq_true v.render
  have nonnull' : string v.render ≠ .null := nofun
  rw [equalValues_of_text nonnull' nonnull (fun both => plain both.2) (.inl rfl)]
  -- One side is no number, so the other one need not be looked at.
  rcases unread with numberless | unread
  · rw [numberless]
    cases (string v.render).number? <;> exact texts
  · have numberless : (string v.render).number? = none := unread
    rw [numberless]
    exact texts

/-- Whatever is not null is equal to its text. -/
theorem equalValues_render {v : Value} (nonnull : v ≠ .null) :
    equalValues (.string v.render) v = true := by
  cases v with
  | null => exact absurd rfl nonnull
  | boolean | object => exact equalValues_of_unread nonnull nofun (.inl rfl)
  | string s => exact beq_self_eq_true s
  | integer n => exact equalValues_of_spelled (.bare (.integer n nofun nofun))
  | float x =>
    cases finite : x.isFinite with
    | true => exact equalValues_of_spelled (.bare (.float finite nofun nofun))
    | false =>
      exact equalValues_of_unread nonnull nofun (.inr (Number.read?_of_not_finite finite))

end Value

/-! ### Sources -/

namespace Setting

variable (setting : Setting) {e lhs rhs : Expr Span} {v a b : Value} {s : State} (span : Span)

/-- `'' + e` gives the text of what `e` gives. -/
theorem expression_textForm (gives : setting.expression e s = (.value v, s)) :
    setting.expression (.binary span .add (.literal span (.string "")) e) s =
      (.value (.string v.render), s) := by
  have empty : setting.expression (.literal span (.string "")) s = (.value (.string ""), s) := rfl
  rw [expression, Eval.bind_of_value empty, Eval.bind_of_value gives, BinaryOp.apply,
    addValues_empty]
  rfl

theorem expression_equal (left : setting.expression lhs s = (.value a, s))
    (right : setting.expression rhs s = (.value b, s)) :
    setting.expression (.binary span .equal lhs rhs) s =
      (.value (.boolean (equalValues a b)), s) := by
  rw [expression, Eval.bind_of_value left, Eval.bind_of_value right]
  rfl

end Setting

/-- The sources `'' + x`, `('' + x) == x` and `x == ('' + x)`, and what they give where `x` is
bound. -/
theorem compile_textForms (mode : Mode) : ∃ form left right,
    compile "'' + x".toList mode = .ok form ∧
    compile "('' + x) == x".toList mode = .ok left ∧
    compile "x == ('' + x)".toList mode = .ok right ∧
    ∀ (engine : Engine) (s : State) (v : Value), s.context.get? "x" = some v →
      engine.evaluate form s = (.value (.string v.render), s) ∧
      engine.evaluate left s = (.value (.boolean (equalValues (.string v.render) v)), s) ∧
      engine.evaluate right s = (.value (.boolean (equalValues v (.string v.render))), s) := by
  have words : (tokenize "'' + x".toList).map wordOf =
      .ok [.string "", .sign .plus, .identifier "x"] := by
    decide +kernel
  have words_left : (tokenize "('' + x) == x".toList).map wordOf =
      .ok [mark .leftParen, .string "", .sign .plus, .identifier "x", mark .rightParen,
        .sign .doubleEq, .identifier "x"] := by
    decide +kernel
  have words_right : (tokenize "x == ('' + x)".toList).map wordOf =
      .ok [.identifier "x", .sign .doubleEq, mark .leftParen, .string "", .sign .plus,
        .identifier "x", mark .rightParen] := by
    decide +kernel
  have sum : Phrase .assignment [.string "", .sign .plus, .identifier "x"] _ :=
    .binary .add (by decide) (.literal (.string "")) (.var "x")
  obtain ⟨form, compiled, gives⟩ := evaluates_of_phrase words sum mode
  obtain ⟨left, compiled_left, gives_left⟩ := evaluates_of_phrase words_left
    (.binary .equal (by decide) (.parens sum) (.var "x")) mode
  obtain ⟨right, compiled_right, gives_right⟩ := evaluates_of_phrase words_right
    (.binary .equal (by decide) (.var "x") (.parens sum)) mode
  refine ⟨form, left, right, compiled, compiled_left, compiled_right, fun engine s v bound => ?_⟩
  have x : engine.setting.expression (.var ⟨"x", .nowhere⟩) s = (.value v, s) :=
    engine.setting.variable_of_get? bound
  have text := engine.setting.expression_textForm .nowhere x
  exact ⟨gives engine _ _ _ _ rfl text,
    gives_left engine _ _ _ _ rfl (engine.setting.expression_equal .nowhere text x),
    gives_right engine _ _ _ _ rfl (engine.setting.expression_equal .nowhere x text)⟩

end ExprScript
