import ExprScript.Proofs.RoundTrip.Printing

/-!
# What is printed is in the grammar

The lexemes of a regular tree are the lexemes of a word of the grammar, and the tree is that of the
word. The induction is on the proof that the tree is regular.
-/

namespace ExprScript

open Grammar

theorem Lexeme.ofKeyword (k : Keyword) : Lexeme k.text.toList (.keyword k) := by
  simpa [Scan.word_keyword] using Lexeme.ofWord (Scan.isWord_keyword k)

theorem Lexeme.ofSymbol {symbol : String} {operator : Sign} (h : symbol = operator.text) :
    Lexeme symbol.toList (.sign operator) := by
  rw [h]
  exact .ofSign operator

theorem Lexeme.ofBinary (op : BinaryOp) : Lexeme op.symbol.toList (.sign op.sign) :=
  .ofSymbol (by cases op <;> rfl)

theorem Lexeme.ofLogical (op : LogicalOp) : Lexeme op.symbol.toList (.sign op.sign) :=
  .ofSymbol (by cases op <;> rfl)

theorem Lexeme.ofUnary (op : UnaryOp) : Lexeme op.symbol.toList (.sign op.sign) :=
  .ofSymbol (by cases op <;> rfl)

theorem Lexeme.ofBuiltin (function : Builtin) :
    Lexeme function.text.toList (.keyword function.keyword) := by
  have name : function.text = function.keyword.text := by cases function <;> rfl
  rw [name]
  exact .ofKeyword function.keyword

theorem Lexeme.ofVariable {text : String} (h : IsVariable text) :
    Lexeme text.toList (.identifier text) := by
  obtain ⟨shaped, free⟩ := h
  simpa [Scan.word, free] using Lexeme.ofWord shaped

/-- The word of a member is a name or a keyword, and the member is named by it. -/
theorem IsMember.memberText? {text : String} (h : IsMember text) :
    (Scan.word text).memberText? = some text := by
  rcases Scan.word_cases text with ⟨-, same⟩ | ⟨k, same, named⟩ | ⟨s, same⟩
  · simp [same, Token.memberText?]
  · simp [same, Token.memberText?, named]
  · exact absurd same (h.2 s)

/-- A number that is written as digits, a point and digits, and is what they are read as. -/
def PrintedInDigits (floats : Float → List Char) (x : Float) : Prop :=
  x.isFinite = true ∧ Double.read? (floats x) = some x ∧
    ∃ whole fraction, floats x = whole ++ '.' :: fraction ∧ IsDigits whole ∧ IsDigits fraction

theorem Stmt.takesElse_shape {σ : Type} : ∀ s : Stmt σ, s.shape.takesElse = s.takesElse
  | expr .. | block .. | ifThen .. | empty _ => rfl
  | ifElse _ _ _ no => no.takesElse_shape
  | loop _ _ body => body.takesElse_shape

variable {floats : Float → List Char}

theorem Literal.Regular.lexeme {value : Literal} (h : value.Regular (PrintedInDigits floats)) :
    Lexeme (value.lexeme floats) value.token := by
  cases value with
  | integer n => exact .ofInteger h
  | float x =>
    obtain ⟨-, read, whole, fraction, same, front, back⟩ := h
    rw [same] at read
    simpa [Literal.lexeme, Literal.token, same] using Lexeme.ofFloat front back read
  | boolean b =>
    cases b with
    | true => exact .ofKeyword .trueWord
    | false => exact .ofKeyword .falseWord
  | string s => exact .ofString s
  | null => exact .ofKeyword .nullWord

theorem lexemes_grouped {texts : List (List Char)} {word : List Token}
    (h : List.Forall₂ Lexeme texts word) :
    List.Forall₂ Lexeme (grouped texts) (mark .leftParen :: word ++ [mark .rightParen]) :=
  .cons (.ofPunctuation .leftParen)
    (List.rel_append h (.cons (.ofPunctuation .rightParen) .nil))

/-- Lexemes of a word that is an expression wherever one can stand. -/
def Spells (texts : List (List Char)) (e : Expr Unit) : Prop :=
  ∃ word d, List.Forall₂ Lexeme texts word ∧ (∀ level, Phrase level word d) ∧ d.shape = e

theorem spells_grouped {texts : List (List Char)} {word : List Token} {d : Expr Parens}
    (h : List.Forall₂ Lexeme texts word) (phrase : Phrase .assignment word d) :
    Spells (grouped texts) d.shape :=
  ⟨_, d.mapRoot .succ, lexemes_grouped h, fun _ => .parens phrase, d.shape_mapRoot .succ⟩

theorem lexemes_member {texts : List (List Char)} {word : List Token} {text : String}
    (h : List.Forall₂ Lexeme texts word) (named : IsMember text) :
    List.Forall₂ Lexeme (texts ++ [['.'], text.toList]) (word ++ [mark .dot, Scan.word text]) :=
  List.rel_append h (.cons (.ofPunctuation .dot) (.cons (.ofWord named.1) .nil))

/-- What an element or a call has behind its target. -/
theorem lexemes_enclosed {texts inside : List (List Char)} {word key : List Token}
    (before after : Punctuation) (h : List.Forall₂ Lexeme texts word)
    (h' : List.Forall₂ Lexeme inside key) :
    List.Forall₂ Lexeme (texts ++ before.text.toList :: inside ++ [after.text.toList])
      (word ++ mark before :: key ++ [mark after]) :=
  List.rel_append (List.rel_append h (.cons (.ofPunctuation before) h'))
    (.cons (.ofPunctuation after) .nil)

/-- What a conditional or a loop has in front of its first branch. -/
theorem lexemes_headed {texts body : List (List Char)} {test word : List Token} (k : Keyword)
    (h : List.Forall₂ Lexeme texts test) (h' : List.Forall₂ Lexeme body word) :
    List.Forall₂ Lexeme (k.text.toList :: ['('] :: texts ++ [')'] :: body)
      (.keyword k :: mark .leftParen :: test ++ mark .rightParen :: word) :=
  .cons (.ofKeyword k) (.cons (.ofPunctuation .leftParen)
    (List.rel_append h (.cons (.ofPunctuation .rightParen) h')))

/-- Arguments that are spelled one by one are spelled with the commas between them. -/
theorem arguments_spelled {arguments : List (Expr Unit)}
    (each : ∀ a ∈ arguments, Spells (a.lexemes floats) a) :
    ∃ found : List Argument, (∀ a ∈ found, Phrase .assignment a.words a.tree) ∧
      (found.map Argument.tree).map Expr.shape = arguments ∧
      List.Forall₂ Lexeme (Expr.argumentLexemes floats arguments)
        (commaSeparated (found.map Argument.words)) ∧
      List.Forall₂ Lexeme (Expr.laterLexemes floats arguments)
        ((found.map Argument.words).flatMap (mark .comma :: ·)) := by
  induction arguments with
  | nil => exact ⟨[], by simp, rfl, .nil, .nil⟩
  | cons a rest ih =>
    obtain ⟨here, later⟩ := List.forall_mem_cons.1 each
    obtain ⟨word, d, spelled, phrase, rfl⟩ := here
    obtain ⟨found, phrases, shapes, -, behind⟩ := ih later
    refine ⟨⟨word, d⟩ :: found, List.forall_mem_cons.2 ⟨phrase _, phrases⟩, ?_, ?_, ?_⟩
    · simp [shapes]
    · exact List.rel_append spelled behind
    · exact .cons (.ofPunctuation .comma) (List.rel_append spelled behind)

/-- The lexemes of a regular expression spell it. -/
theorem Expr.Regular.spells {e : Expr Unit} (h : e.Regular (PrintedInDigits floats)) :
    Spells (e.lexemes floats) e := by
  induction h with
  | literal regular => exact ⟨_, _, .cons regular.lexeme .nil, fun _ => .literal _, rfl⟩
  | @var text named => exact ⟨_, _, .cons (.ofVariable named) .nil, fun _ => .var text, rfl⟩
  | @binary op _ _ _ _ left right =>
    obtain ⟨_, lhs, first, before, rfl⟩ := left
    obtain ⟨_, rhs, second, behind, rfl⟩ := right
    exact spells_grouped (List.rel_append first (.cons (.ofBinary op) second))
      (.binary op (by cases op <;> decide) (before _) (behind _))
  | @unary op _ _ operand =>
    obtain ⟨_, d, spelled, phrase, rfl⟩ := operand
    exact spells_grouped (.cons (.ofUnary op) spelled) (.unary op (by decide) (phrase _))
  | @logical op _ _ _ _ left right =>
    obtain ⟨_, lhs, first, before, rfl⟩ := left
    obtain ⟨_, rhs, second, behind, rfl⟩ := right
    exact spells_grouped (List.rel_append first (.cons (.ofLogical op) second))
      (.logical op (by cases op <;> decide) (before _) (behind _))
  | ternary _ _ _ test left right =>
    obtain ⟨_, condition, first, before, rfl⟩ := test
    obtain ⟨_, yes, second, between, rfl⟩ := left
    obtain ⟨_, no, third, behind, rfl⟩ := right
    exact spells_grouped
      (List.rel_append (List.rel_append first (.cons (.ofSign .question) second))
        (.cons (.ofPunctuation .colon) third))
      (.ternary (by decide) (before _) (between _) (behind _))
  | elvis _ _ left right =>
    obtain ⟨_, lhs, first, before, rfl⟩ := left
    obtain ⟨_, rhs, second, behind, rfl⟩ := right
    exact spells_grouped (List.rel_append first (.cons (.ofSign .questionColon) second))
      (.elvis (by decide) (before _) (behind _))
  | @assign text _ named _ right =>
    obtain ⟨_, value, spelled, phrase, rfl⟩ := right
    exact spells_grouped (.cons (.ofVariable named) (.cons (.ofSign .equals) spelled))
      (.assign (by decide) (.var text) (phrase _))
  | get _ named left =>
    obtain ⟨_, target, spelled, phrase, rfl⟩ := left
    exact spells_grouped (lexemes_member spelled named) (.get (phrase _) named.memberText?)
  | index _ _ left inside =>
    obtain ⟨_, target, first, before, rfl⟩ := left
    obtain ⟨_, key, second, between, rfl⟩ := inside
    exact spells_grouped (lexemes_enclosed .leftBracket .rightBracket first second)
      (.index (before _) (between _))
  | @assignMember _ text _ _ named _ left right =>
    obtain ⟨_, target, first, before, rfl⟩ := left
    obtain ⟨_, value, second, behind, rfl⟩ := right
    have member : Phrase .choice _ _ := .get (before .chain) named.memberText?
    exact spells_grouped
      (List.rel_append (lexemes_member first named) (.cons (.ofSign .equals) second))
      (.assignMember (by decide) member (behind _))
  | assignIndex _ _ _ left inside right =>
    obtain ⟨_, target, first, before, rfl⟩ := left
    obtain ⟨_, key, second, between, rfl⟩ := inside
    obtain ⟨_, value, third, behind, rfl⟩ := right
    have element : Phrase .choice _ _ := .index (before .chain) (between _)
    have written := lexemes_enclosed .leftBracket .rightBracket first second
    exact spells_grouped (List.rel_append written (.cons (.ofSign .equals) third))
      (.assignIndex (by decide) element (behind _))
  | call _ named _ few left each =>
    obtain ⟨_, target, spelled, phrase, rfl⟩ := left
    obtain ⟨found, phrases, rfl, inside, -⟩ := arguments_spelled each
    have member : Phrase .chain _ _ := .get (phrase .chain) named.memberText?
    have spells := spells_grouped
      (lexemes_enclosed .leftParen .rightParen (lexemes_member spelled named) inside)
      (.call found member phrases (by simpa using few))
    rw [Expr.shape_call, Name.shape_mk] at spells
    exact spells
  | @builtin function _ _ inside =>
    obtain ⟨_, d, spelled, phrase, rfl⟩ := inside
    exact spells_grouped (.cons (.ofBuiltin function) (lexemes_grouped spelled))
      (.builtin function (phrase _))

/-- Statements that are spelled one by one are spelled in sequence, and all of them are ended. -/
theorem sequence_spelled {body : List (Stmt Unit)}
    (each : ∀ s ∈ body, ∃ word d, List.Forall₂ Lexeme (s.lexemes floats) word ∧
      Sentence true word d ∧ d.shape = s) :
    ∃ parts : List Part, (∀ p ∈ parts, Sentence p.ended p.words p.tree) ∧
      parts.Pairwise (fun p _ => p.ended) ∧ (parts.map Part.tree).map Stmt.shape = body ∧
      List.Forall₂ Lexeme (Stmt.sequenceLexemes floats body) (parts.flatMap Part.words) := by
  induction body with
  | nil => exact ⟨[], by simp, .nil, rfl, .nil⟩
  | cons s rest ih =>
    obtain ⟨⟨word, d, spelled, sentence, rfl⟩, later⟩ := List.forall_mem_cons.1 each
    obtain ⟨parts, sentences, pairwise, shapes, behind⟩ := ih later
    exact ⟨⟨true, word, d⟩ :: parts, List.forall_mem_cons.2 ⟨sentence, sentences⟩,
      .cons (fun _ _ => rfl) pairwise, by simp [← shapes], List.rel_append spelled behind⟩

/-- The lexemes of a regular statement are those of a statement with every semicolon. -/
theorem Stmt.Regular.spells {s : Stmt Unit} (h : s.Regular (PrintedInDigits floats)) :
    ∃ word d, List.Forall₂ Lexeme (s.lexemes floats) word ∧ Sentence true word d ∧
      d.shape = s := by
  induction h with
  | expr regular =>
    obtain ⟨_, d, spelled, phrase, rfl⟩ := regular.spells
    exact ⟨_, _, List.rel_append spelled (.cons (.ofPunctuation .semicolon) .nil),
      .expr (phrase _), rfl⟩
  | block _ each =>
    obtain ⟨parts, sentences, pairwise, rfl, inside⟩ := sequence_spelled each
    exact ⟨_, _, List.rel_append (.cons (.ofPunctuation .leftBrace) inside)
      (.cons (.ofPunctuation .rightBrace) .nil), .block parts sentences pairwise,
      Stmt.shape_block bare _⟩
  | ifThen test _ body =>
    obtain ⟨_, condition, first, phrase, rfl⟩ := test.spells
    obtain ⟨_, yes, second, sentence, rfl⟩ := body
    exact ⟨_, _, lexemes_headed .ifWord first second, .ifThen (phrase _) sentence, rfl⟩
  | ifElse test _ nearest _ body other =>
    obtain ⟨_, condition, first, phrase, rfl⟩ := test.spells
    obtain ⟨_, yes, second, sentence, rfl⟩ := body
    obtain ⟨_, no, third, alternative, rfl⟩ := other
    rw [Stmt.takesElse_shape] at nearest
    exact ⟨_, _, List.rel_append (lexemes_headed .ifWord first second)
      (.cons (.ofKeyword .elseWord) third),
      .ifElse (phrase _) sentence nearest alternative, rfl⟩
  | loop test _ body =>
    obtain ⟨_, condition, first, phrase, rfl⟩ := test.spells
    obtain ⟨_, inner, second, sentence, rfl⟩ := body
    exact ⟨_, _, lexemes_headed .whileWord first second, .loop (phrase _) sentence, rfl⟩
  | empty => exact ⟨_, _, .cons (.ofPunctuation .semicolon) .nil, .empty, rfl⟩

/-- The lexemes of a regular unit are those of a unit of its mode. -/
theorem Tree.Regular.spells {t : Tree Unit} (h : t.Regular (PrintedInDigits floats)) :
    ∃ word d, List.Forall₂ Lexeme (t.lexemes floats) word ∧ Whole t.mode word d ∧
      d.shape = t := by
  cases t with
  | expression e =>
    obtain ⟨_, d, spelled, phrase, rfl⟩ := Expr.Regular.spells h
    exact ⟨_, _, spelled, .expression (phrase _), rfl⟩
  | script body =>
    obtain ⟨parts, sentences, pairwise, rfl, inside⟩ :=
      sequence_spelled fun s listed => (h s listed).spells
    exact ⟨_, _, inside, .script parts sentences pairwise, Tree.shape_script _⟩

end ExprScript
