import ExprScript.Proofs.Eval.Sequencing
import ExprScript.Proofs.RoundTrip.Range
import ExprScript.Proofs.Token.Seam

/-!
# Scripts in sequence

Two scripts with a semicolon on a line of its own between them are a script that does what the first
does and then, if that gave a value, what the second does.
-/

namespace ExprScript

open Scan

/-- The tokens of a source are in order and end before a semicolon behind it does. -/
theorem ordered_of_tiled {source : List Char} {tokens front : List SpannedToken} {stop : Span}
    (h : Tiled Reads .start source tokens) (marked : Marked tokens front stop) :
    Stream.Ordered (semicolonSpan source) (.ofTokens tokens) := by
  have placed : ∀ t ∈ front, t.span.start.byte < t.span.stop.byte ∧
      t.span.stop.byte < (semicolonSpan source).stop.byte := by
    intro t mem
    have mem' : t ∈ tokens := marked.split ▸ List.mem_append_left _ mem
    obtain ⟨before, lexeme, rest, rfl, span, reads⟩ := h.read_of_mem mem' (marked.inside t mem)
    have filled : bytes lexeme ≠ 0 := fun none => reads.ne_nil (bytes_eq_zero none)
    have mark : bytes ['\n', ';'] = 2 := rfl
    simp only [span, semicolonSpan, Position.byte_after_start, bytes_append, mark]
    omega
  have apart : front.Pairwise fun t t' => t.span.stop.byte ≤ t'.span.start.byte :=
    h.pairwise.sublist (marked.split ▸ List.sublist_append_left _ _)
  constructor
  · rw [Stream.inside_ofTokens marked]
    refine apart.imp_of_mem fun mem _ le => ?_
    exact Nat.lt_of_lt_of_le (placed _ mem).1 le
  · rw [Stream.inside_ofTokens marked]
    exact fun t mem => (placed t mem).2

theorem marked_of_tokenize {source : List Char} {tokens : List SpannedToken}
    (h : tokenize source = .ok tokens) : ∃ front stop, Marked tokens front stop := by
  have tiled : Tiled Reads .start source tokens := tiled_of_tokensFrom h
  obtain ⟨front, split, inside⟩ := tiled.ends
  exact ⟨front, _, split, inside⟩

/-- One evaluation and then, if it gave a value, another one in the state it left. The value of the
second is the value of both when it counts. -/
def Eval.followedBy (first second : Eval Value) (counts : Bool) : Eval Value := fun s =>
  match first s with
  | (.value v, s₁) =>
    match second s₁ with
    | (.value w, s₂) => (.value (if counts then w else v), s₂)
    | (.error e, s₂) => (.error e, s₂)
    | (.exhausted, s₂) => (.exhausted, s₂)
  | (.error e, s₁) => (.error e, s₁)
  | (.exhausted, s₁) => (.exhausted, s₁)

theorem Eval.followedBy_counted (first second : Eval Value) :
    first.followedBy second true = first >>= fun _ => second := by
  funext s
  simp only [followedBy, bind, if_true]
  rcases first s with ⟨value | error | exhausted, s₁⟩
  · dsimp only
    rcases second s₁ with ⟨value | error | exhausted, s₂⟩ <;> rfl
  · rfl
  · rfl

/-- What gives a value that does not count and changes nothing can be left out. -/
theorem Eval.followedBy_silent (first : Eval Value) (v : Value) :
    first.followedBy (pure v) false = first := by
  funext s
  simp only [followedBy]
  rcases first s with ⟨value | error | exhausted, s₁⟩ <;> rfl

/-- The statements of a script. -/
def Tree.statements {σ : Type} : Tree σ → List (Stmt σ)
  | .expression _ => []
  | .script body => body

theorem script_of_compile {source : List Char} {unit : CompiledUnit}
    (h : compile source .script = .ok unit) : ∃ body, unit.tree = .script body := by
  have mode := (regular_of_compile h).1
  cases tree : unit.tree with
  | expression e => simp [tree, Tree.mode] at mode
  | script body => exact ⟨body, rfl⟩

theorem Setting.statements_sequenced (setting : Setting) {semicolon : Span} (f : Span → Span)
    {body body' closed : List (Stmt Span)} (h : Stmt.Closed semicolon body closed) :
    setting.statements (closed ++ body'.map (Stmt.map f)) .null =
      (setting.statements body .null).followedBy ((setting.statements body' .null).move f)
        (body'.any fun t => !t.isEmpty) := by
  rw [statements_append, statements_closed _ h, ← Stmt.mapAll_eq_map, ← List.not_all_eq_any_not]
  simp only [statements_map]
  cases silent : body'.all Stmt.isEmpty with
  | true =>
    have nothing (v : Value) : setting.statements body' v = pure v := by
      rw [statements_last, silent]
      rfl
    simp only [nothing, Eval.move_pure]
    rw [Eval.bind_pure]
    exact (Eval.followedBy_silent _ _).symm
  | false =>
    have same (v : Value) : setting.statements body' v = setting.statements body' .null := by
      rw [statements_last, silent]
      rfl
    simp only [same]
    exact (Eval.followedBy_counted _ _).symm

/-- A unit that runs two scripts, the first of them compiled from `a`, one after the other. Its
statements are those of the first, the semicolon behind it, and those of the second at their new
places. An evaluation goes on with the second script where the first gave a value, and gives the
value of the second when one of its statements is not empty. -/
structure InSequence (a : List Char) (first second unit : CompiledUnit) : Prop where
  statements : ∃ closed, Stmt.Closed (semicolonSpan a) first.tree.statements closed ∧
    unit.tree = .script (closed ++ second.tree.statements.map (Stmt.map (behindSeam a)))
  evaluate : ∀ engine : Engine, engine.evaluate unit =
    (engine.evaluate first).followedBy ((engine.evaluate second).move (behindSeam a))
      (second.tree.statements.any fun t => !t.isEmpty)

/-- Two scripts with a semicolon on a line of its own between them are a script, which runs them in
sequence. -/
theorem compile_sequenced {a b : List Char} {first second : CompiledUnit}
    (ha : compile a .script = .ok first) (hb : compile b .script = .ok second) :
    ∃ unit, compile (sequenced a b) .script = .ok unit ∧ InSequence a first second unit := by
  obtain ⟨body, script⟩ := script_of_compile ha
  obtain ⟨body', script'⟩ := script_of_compile hb
  obtain ⟨tokens, read, _, parsed, rfl⟩ := compile_eq_ok_iff.1 ha
  obtain ⟨tokens', read', _, parsed', rfl⟩ := compile_eq_ok_iff.1 hb
  obtain rfl := script
  obtain rfl := script'
  obtain ⟨front, stop, marked⟩ := marked_of_tokenize read
  obtain ⟨front', stop', marked'⟩ := marked_of_tokenize read'
  have extend : ∀ s t : Span, behindSeam a (s.extend t) =
      (behindSeam a s).extend (behindSeam a t) := Span.shift_extend _ _
  have ordered : Stream.Ordered (semicolonSpan a) (.ofTokens tokens) :=
    ordered_of_tiled (tiled_of_tokensFrom read) marked
  obtain ⟨closed, closes, whole⟩ :=
    parse_sequenced extend marked marked' ordered parsed parsed'
  have tokenized := tokenize_sequenced read read'
  rw [marked.split, List.dropLast_concat] at tokenized
  exact ⟨_, compile_eq_ok_iff.2 ⟨_, tokenized, _, whole, rfl⟩, ⟨closed, closes, rfl⟩,
    fun engine => engine.setting.statements_sequenced (behindSeam a) closes⟩

/-- The semicolon behind a conditional without an `else` that ends in a comment, and a script. -/
theorem compile_sequenced_conditional : ∃ first second unit,
    compile "if (x) y = 1 // set".toList .script = .ok first ∧
    compile "y;".toList .script = .ok second ∧
    compile "if (x) y = 1 // set\n;\ny;".toList .script = .ok unit ∧
    InSequence "if (x) y = 1 // set".toList first second unit := by
  obtain ⟨first, ha⟩ := exists_of_isOk (x := compile "if (x) y = 1 // set".toList .script)
    (by decide +kernel)
  obtain ⟨second, hb⟩ := exists_of_isOk (x := compile "y;".toList .script) (by decide +kernel)
  obtain ⟨unit, whole, runs⟩ := compile_sequenced ha hb
  exact ⟨first, second, unit, ha, hb, whole, runs⟩

end ExprScript
