import ExprScript.Proofs.Eval.Integers
import ExprScript.Proofs.Modes

/-!
# The texts of integers as sources

The text of an integer is an expression that has this integer as its value: a literal, or a literal
behind a minus. The sign does not belong to the literal, so the least integer cannot be written: its
opposite is no word.
-/

namespace ExprScript

open Grammar Scan

/-- `Spelled e n`: the expression is a literal with or without a minus, and stands for `n`. -/
inductive Spelled : Expr Unit → Int64 → Prop where
  | literal (n : Int64) : Spelled (.literal () (.integer n)) n
  | negated {m n : Int64} (opposite : m.toInt = -n.toInt) :
      Spelled (.unary () .negate (.literal () (.integer m))) n

theorem digits_negative {m n : Int64} (negative : n.toInt < 0) (opposite : m.toInt = -n.toInt) :
    Integer.digits n.toInt = '-' :: Integer.digits m.toInt := by
  rw [Integer.digits, if_pos negative, Integer.digits, if_neg (by omega), opposite, Int.natAbs_neg]

theorem tokenize_integer {n : Int64} (h : 0 ≤ n.toInt) : ∃ span span',
    tokenize (Integer.digits n.toInt) = .ok [⟨.integer n, span⟩, ⟨.endOfInput, span'⟩] := by
  have read : Reads (Integer.digits n.toInt) (.integer n) [] :=
    (Lexeme.ofInteger h).reads (.inl rfl)
  have tiled := Tiled.cons read.ne_end read (.last (.after .start _) .nil)
  rw [List.append_nil] at tiled
  exact ⟨_, _, tokensFrom_of_tiled tiled⟩

theorem tokenize_negated {m : Int64} (h : 0 ≤ m.toInt) : ∃ span span' span'',
    tokenize ('-' :: Integer.digits m.toInt) =
      .ok [⟨.sign .minus, span⟩, ⟨.integer m, span'⟩, ⟨.endOfInput, span''⟩] := by
  have minus : Reads ['-'] (.sign .minus) (Integer.digits m.toInt) :=
    .sign .minus (by simp [Stops, Sign.continuations])
  have read : Reads (Integer.digits m.toInt) (.integer m) [] :=
    (Lexeme.ofInteger h).reads (.inl rfl)
  have tiled := Tiled.cons read.ne_end read (.last (.after (.after .start ['-']) _) .nil)
  rw [List.append_nil] at tiled
  exact ⟨_, _, _, tokensFrom_of_tiled (.cons minus.ne_end minus tiled)⟩

/-- A source whose tokens are a numeral compiles to this numeral. -/
theorem compile_spelled {source : List Char} {tokens : List SpannedToken} {d : Expr Parens}
    {n : Int64} (read : tokenize source = .ok tokens) (phrase : Phrase .assignment (wordOf tokens) d)
    (spelled : Spelled d.shape n) : ∃ e,
      compile source .expression = .ok ⟨source, .expression e⟩ ∧ Spelled e.shape n := by
  obtain ⟨unit, compiled, shape⟩ := (compile_iff_whole read).2 ⟨_, .expression phrase, rfl⟩
  obtain ⟨e, rfl⟩ := expression_of_compile compiled
  have same : e.shape = d.shape := Tree.expression.inj shape
  exact ⟨e, compiled, same ▸ spelled⟩

/-- The text of an integer is an expression that stands for it, unless it is the least one. -/
theorem compile_digits {n : Int64} (other : n ≠ Int64.minValue) : ∃ e,
    compile (Integer.digits n.toInt) .expression =
      .ok ⟨Integer.digits n.toInt, .expression e⟩ ∧ Spelled e.shape n := by
  by_cases negative : n.toInt < 0
  · obtain ⟨m, opposite⟩ : ∃ m : Int64, m.toInt = -n.toInt := by
      simpa using mt (opposite_large_iff n).1 other
    obtain ⟨_, _, _, read⟩ := tokenize_negated (m := m) (by omega)
    rw [digits_negative negative opposite]
    exact compile_spelled read (.unary .negate (by decide) (.literal (.integer m)))
      (.negated opposite)
  · obtain ⟨_, _, read⟩ := tokenize_integer (n := n) (by omega)
    exact compile_spelled read (.literal (.integer n)) (.literal n)

theorem negate_integer {m n : Int64} (opposite : m.toInt = -n.toInt) (strict : Bool) :
    UnaryOp.negate.apply strict (.integer m) = .ok (.integer n) := by
  have fits : n.toInt = -m.toInt := by omega
  have result := (Number.standsFor_negative m).eq_integer fits
  rw [← result]
  rfl

/-- A numeral has the integer as its value that it stands for, and changes nothing. -/
theorem Spelled.evaluates {e : Expr Span} {n : Int64} (h : Spelled e.shape n) (setting : Setting)
    (s : State) : setting.expression e s = (.value (.integer n), s) := by
  cases e with
  | literal span value =>
    cases h
    rfl
  | unary span op operand =>
    cases operand with
    | literal span' value =>
      cases h with
      | @negated m _ opposite =>
        change (Eval.blame span (UnaryOp.negate.apply setting.strict (.integer m)), s) = _
        rw [negate_integer opposite]
        rfl
    | _ => cases h
  | _ => cases h

/-- The digits of the least integer are no literal. -/
theorem compile_least (mode : Mode) : compile (Integer.digits Int64.minValue.toInt) mode =
    .error (.lex ⟨⟨1, 1, 2⟩, .invalidNumber "9223372036854775808"⟩) := by
  have failed : tokenize (Integer.digits Int64.minValue.toInt) =
      .error ⟨⟨1, 1, 2⟩, .invalidNumber "9223372036854775808"⟩ := by
    decide +kernel
  rw [compile, compileTree, failed]
  rfl

theorem toList_integer_text (n : Int64) :
    (Value.integer n).text.toList = Integer.digits n.toInt :=
  String.toList_ofList

/-- The text of every integer but the least one is an expression and a script with this value, in
every state and with every engine. The text of the least one has no tokens, since the literal behind
its minus is too large. -/
theorem integer_text_evaluates (mode : Mode) (n : Int64) :
    (n ≠ Int64.minValue → ∃ unit, compile (Value.integer n).text.toList mode = .ok unit ∧
      ∀ (engine : Engine) (s : State), engine.evaluate unit s = (.value (.integer n), s)) ∧
    (n = Int64.minValue → compile (Value.integer n).text.toList mode =
      .error (.lex ⟨⟨1, 1, 2⟩, .invalidNumber "9223372036854775808"⟩)) := by
  rw [toList_integer_text]
  constructor
  · intro other
    obtain ⟨e, compiled, spelled⟩ := compile_digits other
    cases mode with
    | expression => exact ⟨_, compiled, fun engine s => spelled.evaluates engine.setting s⟩
    | script =>
      obtain ⟨span, compiled'⟩ := compile_expression_iff_script.1 compiled
      refine ⟨_, compiled', fun engine s => ?_⟩
      rw [engine.evaluate_statement]
      exact spelled.evaluates engine.setting s
  · rintro rfl
    exact compile_least mode

/-- The least integer that can be written, and the one below it. -/
theorem integer_text_evaluates_low : -9223372036854775807 ≠ Int64.minValue ∧
    (∃ unit, compile "-9223372036854775807".toList .script = .ok unit ∧
      ∀ (engine : Engine) (s : State),
        engine.evaluate unit s = (.value (.integer (-9223372036854775807)), s)) ∧
    compile "-9223372036854775808".toList .script =
      .error (.lex ⟨⟨1, 1, 2⟩, .invalidNumber "9223372036854775808"⟩) := by
  have text : (Value.integer (-9223372036854775807)).text = "-9223372036854775807" := by
    decide +kernel
  have text' : (Value.integer Int64.minValue).text = "-9223372036854775808" := by decide +kernel
  have other : -9223372036854775807 ≠ Int64.minValue := by decide
  obtain ⟨unit, compiled, evaluates⟩ := (integer_text_evaluates .script _).1 other
  have failed := (integer_text_evaluates .script _).2 rfl
  rw [text] at compiled
  rw [text'] at failed
  exact ⟨other, ⟨unit, compiled, evaluates⟩, failed⟩

/-- The text of the least integer is no expression. -/
theorem least_integer_not_written :
    ¬ ∃ unit, compile (Value.integer Int64.minValue).text.toList .expression = .ok unit := by
  rintro ⟨unit, compiled⟩
  rw [toList_integer_text, compile_least] at compiled
  cases compiled

end ExprScript
