import ExprScript.Proofs.Eval.Moving
import ExprScript.Proofs.Parse.Sequencing

/-!
# Evaluation of sequences

A sequence and then another are evaluated one after the other. The value of the first counts only
when the second has none but empty statements, and a semicolon at the end changes nothing.
-/

namespace ExprScript

theorem Eval.bind_assoc {α β γ : Type} (m : Eval α) (g : α → Eval β) (h : β → Eval γ) :
    (m >>= g) >>= h = m >>= fun a => g a >>= h := by
  funext s
  simp only [bind]
  rcases m s with ⟨value | error | exhausted, s'⟩ <;> rfl

theorem Eval.bind_pure {α : Type} (m : Eval α) : m >>= pure = m := by
  funext s
  simp only [bind]
  rcases m s with ⟨value | error | exhausted, s'⟩ <;> rfl

namespace Setting

variable (setting : Setting)

theorem statement_terminated (semicolon : Span) (t : Stmt Span) :
    setting.statement (t.terminated semicolon) = setting.statement t := by
  cases t with
  | ifThen span condition yes =>
    simp only [Stmt.terminated, statement, statement_terminated semicolon yes]
  | ifElse span condition yes no =>
    simp only [Stmt.terminated, statement, statement_terminated semicolon no]
  | loop span condition body =>
    simp only [Stmt.terminated, statement, statement_terminated semicolon body]
  | expr | block | empty => simp only [Stmt.terminated, statement]

theorem isEmpty_terminated (semicolon : Span) (t : Stmt Span) :
    (t.terminated semicolon).isEmpty = t.isEmpty := by
  cases t <;> rfl

theorem statements_append (body others : List (Stmt Span)) (last : Value) :
    setting.statements (body ++ others) last =
      setting.statements body last >>= fun v => setting.statements others v := by
  induction body generalizing last with
  | nil => rfl
  | cons s rest ih =>
    rw [List.cons_append, statements, statements]
    split
    · exact ih last
    · rw [Eval.bind_assoc]
      congr
      funext value
      exact ih value

/-- A sequence gives the value before it only when all its statements are empty. -/
theorem statements_last (body : List (Stmt Span)) (last : Value) :
    setting.statements body last =
      if body.all Stmt.isEmpty then pure last else setting.statements body .null := by
  induction body with
  | nil => rfl
  | cons s rest ih =>
    rw [statements, statements, List.all_cons]
    cases s.isEmpty with
    | true => simpa using ih
    | false => simp

/-- The semicolon behind a script changes nothing. -/
theorem statements_closed {semicolon : Span} {body closed : List (Stmt Span)}
    (h : Stmt.Closed semicolon body closed) (last : Value) :
    setting.statements closed last = setting.statements body last := by
  cases h with
  | terminated front takes =>
    rw [statements_append, statements_append]
    congr
    funext value
    simp only [statements, isEmpty_terminated, statement_terminated]
  | empty =>
    rw [statements_append]
    exact Eval.bind_pure _

end Setting

end ExprScript
