import ExprScript.Proofs.Eval.Moving
import ExprScript.Proofs.RoundTrip.Range
import ExprScript.Proofs.Token.Layout

/-!
# Reformatted sources

The lexemes of a source written with other separators are a source that compiles to the same tree up
to spans, and that does the same. The spans matter only to say where an error is.
-/

namespace ExprScript

open Grammar Scan

/-- Only the tokens count for parsing, not their spans: tokens of one word are parsed to trees of
one shape. -/
theorem parse_of_wordOf {tokens tokens' : List SpannedToken} {mode : Mode} {tree : Tree Span}
    (same : wordOf tokens = wordOf tokens') (h : parse tokens mode = .ok tree) :
    ∃ tree', parse tokens' mode = .ok tree' ∧ tree'.shape = tree.shape := by
  obtain ⟨r, found⟩ := parse_eq_ok_iff.1 h
  obtain ⟨d, whole, shape⟩ := Stream.unit_sound found
  change Whole mode (wordOf tokens) d at whole
  rw [same] at whole
  obtain ⟨tree', r', found', shape'⟩ := Stream.unit_complete (s := .ofTokens tokens') whole
  exact ⟨tree', parse_eq_ok_iff.2 ⟨r', found'⟩, shape'.symm.trans shape⟩

/-- A unit that another source compiles to differs from the unit in spans only: those of its tree
and those that its errors are blamed on. -/
structure Reformats (unit unit' : CompiledUnit) : Prop where
  shape : unit'.tree.shape = unit.tree.shape
  evaluate : ∀ engine : Engine, (engine.evaluate unit').unplaced = (engine.evaluate unit).unplaced

/-- Writing the lexemes of a source with other separators between them, each of which starts with
white space, changes neither its tokens nor its tree nor what it does. -/
theorem compile_reformatted {source other : List Char} {mode : Mode} {unit : CompiledUnit}
    {tokens : List SpannedToken} {lexemes : List (List Char)}
    (h : compile source mode = .ok unit) (read : tokenize source = .ok tokens)
    (texts : LexemesOf source tokens lexemes) (spread : Spread lexemes other) :
    ∃ tokens' unit', tokenize other = .ok tokens' ∧
      tokens'.map SpannedToken.token = tokens.map SpannedToken.token ∧
      compile other mode = .ok unit' ∧ Reformats unit unit' := by
  obtain ⟨_, again, tree, parsed, rfl⟩ := compile_eq_ok_iff.1 h
  obtain rfl := Except.ok.inj (read.symm.trans again)
  obtain ⟨tokens', read', same⟩ := tokenize_of_spread read texts spread
  have word : wordOf tokens = wordOf tokens' := by rw [wordOf, wordOf, same]
  obtain ⟨tree', parsed', shape⟩ := parse_of_wordOf word parsed
  refine ⟨tokens', ⟨other, tree'⟩, read', same, ?_, shape, ?_⟩
  · exact compile_eq_ok_iff.2 ⟨tokens', read', tree', parsed', rfl⟩
  · intro engine
    exact engine.setting.unplaced_of_shape shape

/-- A number that a member access follows and a sign before another, with comments in between. -/
theorem compile_reformatted_access : ∃ tokens tokens' unit unit',
    tokenize "x=-7.foo".toList = .ok tokens ∧ compile "x=-7.foo".toList .expression = .ok unit ∧
    tokenize " x\t= /* 5 */-\n7 ## .\n. foo // end".toList = .ok tokens' ∧
    tokens'.map SpannedToken.token = tokens.map SpannedToken.token ∧
    compile " x\t= /* 5 */-\n7 ## .\n. foo // end".toList .expression = .ok unit' ∧
    Reformats unit unit' := by
  obtain ⟨unit, compiled⟩ := exists_of_isOk (x := compile "x=-7.foo".toList .expression)
    (by decide +kernel)
  obtain ⟨tokens, read, -⟩ := compile_eq_ok_iff.1 compiled
  have texts : LexemesOf "x=-7.foo".toList tokens
      ["x".toList, "=".toList, "-".toList, "7".toList, ".".toList, "foo".toList] := by
    have all : (tokenize "x=-7.foo".toList).map (fun tokens =>
        tokens.dropLast.map fun t => t.span.extract? "x=-7.foo".toList) =
          .ok (["x", "=", "-", "7", ".", "foo"].map fun lexeme => some lexeme.toList) := by
      decide +kernel
    rw [read] at all
    exact Except.ok.inj all
  have spread : Spread ["x".toList, "=".toList, "-".toList, "7".toList, ".".toList, "foo".toList]
      " x\t= /* 5 */-\n7 ## .\n. foo // end".toList := by
    have blank {c : Char} (blank : Text.isBlank c = true) : Spacing true [c] :=
      ⟨.blank blank .nil, c, [], rfl, blank⟩
    have block : Separator true "/* 5 */".toList :=
      .block (by decide : ¬ ['*', '/'] <:+: " 5 ".toList) .nil
    have line : Separator true "## .\n".toList :=
      .line .hashes (by decide : '\n' ∉ " .".toList) .nil
    have lastLine : Separator false "// end".toList :=
      .lastLine .slashes (by decide : '\n' ∉ " end".toList)
    have five : Spacing true " /* 5 */".toList := ⟨.blank rfl block, ' ', _, rfl, rfl⟩
    have point : Spacing true " ## .\n".toList := ⟨.blank rfl line, ' ', _, rfl, rfl⟩
    have final : Spacing false " // end".toList := ⟨.blank rfl lastLine, ' ', _, rfl, rfl⟩
    have foo := Spread.lexeme "foo".toList (blank (c := ' ') rfl) (.last final)
    have dot := Spread.lexeme ".".toList point foo
    have seven := Spread.lexeme "7".toList (blank (c := '\n') rfl) dot
    have minus := Spread.lexeme "-".toList five seven
    have equals := Spread.lexeme "=".toList (blank (c := '\t') rfl) minus
    exact .lexeme "x".toList (blank (c := ' ') rfl) equals
  obtain ⟨tokens', unit', read', same, compiled', reformats⟩ :=
    compile_reformatted compiled read texts spread
  exact ⟨tokens, tokens', unit, unit', read, compiled, read', same, compiled', reformats⟩

end ExprScript
