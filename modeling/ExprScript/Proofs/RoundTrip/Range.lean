import ExprScript.Engine
import ExprScript.Proofs.Grammar.Exactness
import ExprScript.Proofs.RoundTrip.Spelling
import ExprScript.Proofs.Token.Lexed

/-!
# The round trip through sources

A regular tree is printed as a source that compiles to it, and every source that compiles does so to
a regular tree. The parser enters by its grammar alone: it finds the trees of derivations, and the
tokens of a derivation are those of lexemes.
-/

namespace ExprScript

open Grammar

theorem isMember_keyword (k : Keyword) : IsMember k.text :=
  ⟨Scan.isWord_keyword k, fun operator => by simp [Scan.word_keyword]⟩

theorem Token.Lexed.isMember {t : Token} {text : String} (h : t.Lexed)
    (named : t.memberText? = some text) : IsMember text := by
  cases t with
  | identifier name =>
    obtain rfl : name = text := by simpa [memberText?] using named
    exact ⟨h.1, fun operator => by simp [Scan.word, h.2]⟩
  | keyword k =>
    obtain rfl : k.text = text := by simpa [memberText?] using named
    exact isMember_keyword k
  | _ => simp [memberText?] at named

/-- Nothing is asked of the numbers with a point. -/
def anyNumber : Float → Prop := fun _ => True

theorem Literal.regular_of_lexed {value : Literal} (h : value.token.Lexed) :
    value.Regular anyNumber := by
  cases value with
  | integer n => exact h
  | _ => trivial

theorem lexed_of_mem_arguments {arguments : List Argument}
    (h : ∀ t ∈ commaSeparated (arguments.map Argument.words), t.Lexed) :
    ∀ a ∈ arguments, ∀ t ∈ a.words, t.Lexed := by
  cases arguments with
  | nil => simp
  | cons first rest =>
    intro a listed t found
    refine h t ?_
    rcases List.mem_cons.1 listed with rfl | later
    · exact List.mem_append_left _ found
    · refine List.mem_append_right _ (List.mem_flatMap.2 ⟨a.words, ?_, ?_⟩)
      · exact List.mem_map_of_mem later
      · exact List.mem_cons_of_mem _ found

/-- The tree of an expression made of scanned tokens is regular. -/
theorem Grammar.Phrase.regular {level : Level} {word : List Token} {d : Expr Parens}
    (h : Phrase level word d) (lexed : ∀ t ∈ word, t.Lexed) : d.shape.Regular anyNumber := by
  induction h with
  | literal value => exact .literal (Literal.regular_of_lexed (lexed _ (by simp)))
  | var text => exact .var (lexed (.identifier text) (by simp))
  | parens _ ih =>
    rw [Expr.shape_mapRoot]
    exact ih fun t inside => lexed t (by simp [inside])
  | builtin function _ ih =>
    exact .builtin (ih fun t inside => lexed t (by simp [inside]))
  | get _ named ih =>
    simp only [List.forall_mem_append, List.forall_mem_cons] at lexed
    exact .get (ih lexed.1) (lexed.2.2.1.isMember named)
  | index _ _ left inside =>
    simp only [List.forall_mem_append, List.forall_mem_cons] at lexed
    exact .index (left lexed.1.1) (inside lexed.1.2.2)
  | call arguments _ _ few left each =>
    simp only [List.forall_mem_append, List.forall_mem_cons] at lexed
    obtain ⟨⟨before, -, inside⟩, -⟩ := lexed
    cases left before with
    | get target named =>
      rw [Expr.shape_call]
      refine .call target named ?_ (by simpa using few)
      intro e listed
      obtain ⟨a, found, rfl⟩ : ∃ a ∈ arguments, a.tree.shape = e := by simpa using listed
      exact each a found (lexed_of_mem_arguments inside a found)
  | unary op _ _ ih =>
    exact .unary (ih fun t inside => lexed t (by simp [inside]))
  | binary op _ _ _ left right =>
    simp only [List.forall_mem_append, List.forall_mem_cons] at lexed
    exact .binary (left lexed.1) (right lexed.2.2)
  | logical op _ _ _ left right =>
    simp only [List.forall_mem_append, List.forall_mem_cons] at lexed
    exact .logical (left lexed.1) (right lexed.2.2)
  | ternary _ _ _ _ test left right =>
    simp only [List.forall_mem_append, List.forall_mem_cons] at lexed
    exact .ternary (test lexed.1.1) (left lexed.1.2.2) (right lexed.2.2)
  | elvis _ _ _ left right =>
    simp only [List.forall_mem_append, List.forall_mem_cons] at lexed
    exact .elvis (left lexed.1) (right lexed.2.2)
  | assign _ _ _ left right =>
    simp only [List.forall_mem_append, List.forall_mem_cons] at lexed
    cases left lexed.1 with
    | var named => exact .assign named (right lexed.2.2)
  | assignMember _ _ _ left right =>
    simp only [List.forall_mem_append, List.forall_mem_cons] at lexed
    cases left lexed.1 with
    | get target named => exact .assignMember target named (right lexed.2.2)
  | assignIndex _ _ _ left right =>
    simp only [List.forall_mem_append, List.forall_mem_cons] at lexed
    cases left lexed.1 with
    | index target key => exact .assignIndex target key (right lexed.2.2)

/-- The tree of a statement made of scanned tokens is regular. -/
theorem Grammar.Sentence.regular {ended : Bool} {word : List Token} {d : Stmt Parens}
    (h : Sentence ended word d) (lexed : ∀ t ∈ word, t.Lexed) : d.shape.Regular anyNumber := by
  induction h with
  | expr phrase => exact .expr (phrase.regular fun t inside => lexed t (by simp [inside]))
  | unended phrase => exact .expr (phrase.regular lexed)
  | block parts _ _ each =>
    rw [Stmt.shape_block]
    refine .block ?_
    intro s listed
    obtain ⟨p, found, rfl⟩ : ∃ p ∈ parts, p.tree.shape = s := by simpa using listed
    exact each p found fun t inside =>
      lexed t (by simp only [List.mem_append, List.mem_cons, List.mem_flatMap]; grind)
  | ifThen test _ ih =>
    simp only [List.forall_mem_append, List.forall_mem_cons] at lexed
    exact .ifThen (test.regular lexed.1.2.2) (ih lexed.2.2)
  | ifElse test _ nearest _ yes no =>
    simp only [List.forall_mem_append, List.forall_mem_cons] at lexed
    rw [← Stmt.takesElse_shape] at nearest
    exact .ifElse (test.regular lexed.1.1.2.2) (yes lexed.1.2.2) nearest (no lexed.2.2)
  | loop test _ ih =>
    simp only [List.forall_mem_append, List.forall_mem_cons] at lexed
    exact .loop (test.regular lexed.1.2.2) (ih lexed.2.2)
  | empty => exact .empty

theorem Grammar.Whole.regular {mode : Mode} {word : List Token} {d : Tree Parens}
    (h : Whole mode word d) (lexed : ∀ t ∈ word, t.Lexed) : d.shape.Regular anyNumber := by
  cases h with
  | expression phrase => exact phrase.regular lexed
  | endedExpression phrase => exact phrase.regular fun t inside => lexed t (by simp [inside])
  | script parts sentences _ =>
    rw [Tree.shape_script]
    intro s listed
    obtain ⟨p, found, rfl⟩ : ∃ p ∈ parts, p.tree.shape = s := by simpa using listed
    exact (sentences p found).regular fun t inside =>
      lexed t (List.mem_flatMap.2 ⟨p, found, inside⟩)

theorem Grammar.Whole.mode_eq {mode : Mode} {word : List Token} {d : Tree Parens}
    (h : Whole mode word d) : d.mode = mode := by
  cases h <;> rfl

theorem exists_of_isOk {ε α : Type} {x : Except ε α} (h : x.isOk = true) : ∃ a, x = .ok a := by
  cases x with
  | error e => cases h
  | ok a => exact ⟨a, rfl⟩

theorem compile_eq_ok_iff {source : List Char} {mode : Mode} {unit : CompiledUnit} :
    compile source mode = .ok unit ↔
      ∃ tokens, tokenize source = .ok tokens ∧
        ∃ tree, parse tokens mode = .ok tree ∧ unit = ⟨source, tree⟩ := by
  unfold compile compileTree
  cases tokenize source with
  | error e => simp [Except.map]
  | ok tokens =>
    cases parsed : parse tokens mode <;> simp [parsed, Except.map, Except.mapError, eq_comm]

/-- The units that a source compiles to have the shapes of the derivations of its tokens. -/
theorem compile_iff_whole {source : List Char} {tokens : List SpannedToken} {mode : Mode}
    {t : Tree Unit} (read : tokenize source = .ok tokens) :
    (∃ unit, compile source mode = .ok unit ∧ unit.tree.shape = t) ↔
      ∃ d, Whole mode (wordOf tokens) d ∧ d.shape = t := by
  constructor
  · rintro ⟨unit, compiled, rfl⟩
    obtain ⟨tokens', read', tree, parsed, rfl⟩ := compile_eq_ok_iff.1 compiled
    obtain rfl := Except.ok.inj (read.symm.trans read')
    obtain ⟨r, found⟩ := parse_eq_ok_iff.1 parsed
    exact Stream.unit_sound found
  · rintro ⟨d, whole, rfl⟩
    obtain ⟨tree, r, found, shape⟩ := Stream.unit_complete (s := Stream.ofTokens tokens) whole
    exact ⟨⟨source, tree⟩,
      compile_eq_ok_iff.2 ⟨tokens, read, tree, parse_eq_ok_iff.2 ⟨r, found⟩, rfl⟩, shape.symm⟩

/-- The word of the tokens of lexemes is that of the lexemes. -/
theorem wordOf_of_lexemes {texts : List (List Char)} {word : List Token}
    {tokens : List SpannedToken} (h : List.Forall₂ Lexeme texts word)
    (same : tokens.map SpannedToken.token = word ++ [.endOfInput]) : wordOf tokens = word := by
  have inside : ∀ t ∈ word, decide (t ≠ Token.endOfInput) = true := by
    intro t listed
    obtain ⟨n, found, rfl⟩ := List.mem_iff_getElem.1 listed
    have lexeme := List.Forall₂.get h (h.length_eq ▸ found) found
    exact decide_eq_true lexeme.inside
  rw [wordOf, same, List.takeWhile_append_of_pos inside]
  simp

variable {floats : Float → List Char}

/-- A regular tree is compiled from what it is printed as. -/
theorem compile_print {t : Tree Unit} (h : t.Regular (PrintedInDigits floats)) :
    ∃ unit, compile (t.print floats) t.mode = .ok unit ∧ unit.tree.shape = t := by
  obtain ⟨word, d, spelled, whole, rfl⟩ := h.spells
  obtain ⟨tokens, read, same⟩ := tokenize_separated spelled
  rw [← wordOf_of_lexemes spelled same] at whole
  exact (compile_iff_whole read).2 ⟨d, whole, rfl⟩

/-- Whatever is compiled is a regular tree of its mode. -/
theorem regular_of_compile {source : List Char} {mode : Mode} {unit : CompiledUnit}
    (h : compile source mode = .ok unit) :
    unit.tree.mode = mode ∧ unit.tree.shape.Regular anyNumber := by
  obtain ⟨tokens, read, tree, -, rfl⟩ := compile_eq_ok_iff.1 h
  obtain ⟨d, whole, shape⟩ := (compile_iff_whole read).1 ⟨_, h, rfl⟩
  have lexed : ∀ t ∈ wordOf tokens, t.Lexed := by
    intro t listed
    obtain ⟨spanned, given, rfl⟩ := List.mem_map.1 ((List.takeWhile_sublist _).subset listed)
    exact lexed_of_mem_tokenize read spanned given
  have same : tree.mode = d.mode := by
    have modes := congrArg Tree.mode shape
    cases d <;> cases tree <;> simp_all [Tree.mode]
  exact ⟨same.trans whole.mode_eq, shape ▸ whole.regular lexed⟩

/-- The regular trees are what sources compile to: each is compiled from its printed source, and no
source is compiled to another. -/
theorem compile_print_exact (floats : Float → List Char) :
    (∀ t : Tree Unit, t.Regular (PrintedInDigits floats) →
      ∃ unit, compile (t.print floats) t.mode = .ok unit ∧ unit.tree.shape = t) ∧
    ∀ source mode unit, compile source mode = .ok unit →
      unit.tree.mode = mode ∧ unit.tree.shape.Regular anyNumber :=
  ⟨fun _ => compile_print, fun _ _ _ => regular_of_compile⟩

/-- `if (x < 1.5) { list.size('it\'s'); } else ;` -/
def sampleUnit : Tree Unit :=
  .script [.ifElse () (.binary () .less (.var ⟨"x", ()⟩) (.literal () (.float 1.5)))
    (.block () [.expr () (.call () (.var ⟨"list", ()⟩) ⟨"size", ()⟩
      [.literal () (.string "it's")])])
    (.empty ())]

theorem compile_print_sampleUnit :
    ∃ unit, compile (sampleUnit.print fun x => (Double.text x).toList) .script = .ok unit ∧
      unit.tree.shape = sampleUnit ∧ unit.tree.shape.Regular anyNumber := by
  have x : IsVariable "x" := ⟨⟨'x', [], rfl, by decide, by simp⟩, rfl⟩
  have list : IsVariable "list" := ⟨⟨'l', _, rfl, by decide, List.all_eq_true.1 (by decide)⟩, rfl⟩
  have size : IsMember "size" := isMember_keyword .sizeWord
  have number : PrintedInDigits (fun x => (Double.text x).toList) 1.5 := by
    refine ⟨by decide, by decide, ['1'], ['5'], by decide, ?_, ?_⟩ <;> simp [IsDigits]
  have regular : sampleUnit.Regular (PrintedInDigits fun x => (Double.text x).toList) := by
    refine List.forall_mem_singleton.2 (.ifElse ?_ (.block ?_) rfl .empty)
    · exact .binary (.var x) (.literal number)
    · exact List.forall_mem_singleton.2 (.expr (.call (.var list) size
        (List.forall_mem_singleton.2 (.literal trivial)) (by decide)))
  obtain ⟨forth, back⟩ := compile_print_exact fun x => (Double.text x).toList
  obtain ⟨unit, compiled, shape⟩ := forth sampleUnit regular
  exact ⟨unit, compiled, shape, (back _ _ _ compiled).2⟩

end ExprScript
