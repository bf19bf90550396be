import ExprScript.Proofs.Parse.Passing
import ExprScript.Proofs.RoundTrip.Range

/-!
# The names of members

Behind a point every word names a member, keywords included, except for the operators that are
written as words. What kind of token a word is does not depend on what is in front of it, so such an
operator is an operator there as well, and the parser refuses it.
-/

namespace ExprScript

open Grammar Scan

/-! ### What the parser refuses -/

namespace Parsed

variable {α β : Type} {m n : Nat} {e : SyntaxError}

/-- The parser stops with this error. -/
def Fails (p : Parsed α n) (e : SyntaxError) : Prop := p.Yields (· = e) fun _ _ => False

theorem Fails.andThen {p : Parsed α m}
    {f : (value : α) → (rest : Stream) → rest.size < m → Parsed β n} (h : p.Fails e) :
    (p.andThen f).Fails e :=
  Yields.andThen h fun _ _ _ never => never.elim

theorem fails_andThen {p : Parsed α m}
    {f : (value : α) → (rest : Stream) → rest.size < m → Parsed β n} {value : α} {rest : Stream}
    (first : p.Gives value rest) (next : ∀ fewer, (f value rest fewer).Fails e) :
    (p.andThen f).Fails e := by
  obtain ⟨fewer, rfl⟩ := first
  exact next fewer

end Parsed

namespace Stream

open Parsed

variable {s : Stream}

theorem memberName_fails (other : s.current.token.memberText? = none) :
    s.memberName.Fails ⟨s.current.span, .expectedMember s.current.token⟩ := by
  rw [memberName_eq_fail other]
  rfl

theorem joined_fails {lhs : Expr Span} (point : s.current.token = mark .dot)
    (other : s.next.current.token.memberText? = none) :
    (joined .lowest lhs s).Fails ⟨s.next.current.span, .expectedMember s.next.current.token⟩ := by
  have ahead : Connective.ofToken? s.current.token = some .member := by
    rw [point]
    rfl
  rw [joined_eq_join ahead (by rfl), join]
  exact (memberName_fails other).andThen.andThen

/-- Behind a variable and a point there has to be a name. -/
theorem unit_fails {text : String} (leading : s.current.token = .identifier text)
    (point : s.next.current.token = mark .dot)
    (other : s.next.next.current.token.memberText? = none) :
    (s.unit .expression).Fails
      ⟨s.next.next.current.span, .expectedMember s.next.next.current.token⟩ := by
  have leaf : literal? s.current = some (.var ⟨text, s.current.span⟩) :=
    literal?_eq_some_iff.2 (.inr ⟨text, leading, rfl⟩)
  have whole : (expression .lowest s).Fails
      ⟨s.next.next.current.span, .expectedMember s.next.next.current.token⟩ := by
    rw [expression]
    refine fails_andThen ((operand_leaf leaf).2 ⟨rfl, rfl⟩) fun fewer => ?_
    exact Yields.widen (joined_fails point other) _
  exact whole.andThen

end Stream

theorem parse_of_fails {tokens : List SpannedToken} {mode : Mode} {e : SyntaxError}
    (h : ((Stream.ofTokens tokens).unit mode).Fails e) : parse tokens mode = .error e := by
  unfold parse
  cases outcome : (Stream.ofTokens tokens).unit mode with
  | done tree rest fewer =>
    rw [outcome] at h
    exact h.elim
  | failed error rest =>
    rw [outcome] at h
    exact congrArg Except.error h

theorem compile_of_refused {source : List Char} {text : String} {span span' : Span}
    {t : SpannedToken} {later : List SpannedToken}
    (read : tokenize source = .ok (⟨.identifier text, span⟩ :: ⟨mark .dot, span'⟩ :: t :: later))
    (other : t.token.memberText? = none) :
    compile source .expression = .error (.parse ⟨t.span, .expectedMember t.token⟩) := by
  have stops := Stream.unit_fails
    (s := .ofTokens (⟨.identifier text, span⟩ :: ⟨mark .dot, span'⟩ :: t :: later)) rfl rfl other
  simp only [compile, compileTree, read, parse_of_fails stops]
  rfl

/-! ### Words behind a point -/

/-- The operators that are written as words. -/
def operatorWords : List String :=
  ["and", "or", "not", "eq", "ne", "lt", "le", "gt", "ge", "div", "mod"]

/-- A word names a member by itself, unless it is an operator. -/
theorem memberText?_word (w : String) :
    (word w).memberText? = if w ∈ operatorWords then none else some w := by
  have reserved : ∀ entry ∈ reservedWords,
      entry.2.memberText? = if entry.1 ∈ operatorWords then none else some entry.1 := by
    decide
  have operators : ∀ w ∈ operatorWords, (reservedWords.lookup w).isSome := by decide
  unfold word
  cases found : reservedWords.lookup w with
  | none =>
    have other : w ∉ operatorWords := fun listed => by simpa [found] using operators w listed
    rw [if_neg other]
    rfl
  | some t => exact reserved (w, t) (mem_of_lookup found)

/-- The source `target.member`. -/
def accessSource (target member : String) : List Char := target.toList ++ '.' :: member.toList

/-- The source `target.member()`. -/
def callSource (target member : String) : List Char := accessSource target member ++ ['(', ')']

/-- Where the member is in these sources. -/
def memberSpan (target member : String) : Span :=
  ⟨.after .start (target.toList ++ ['.']), .after .start (accessSource target member)⟩

section

variable {v w : String} (target : IsVariable v) (shaped : IsWord w)

include target shaped

theorem tokenize_access {behind : List Char} {later : List SpannedToken}
    (ends : Stops isNamePart behind)
    (tiled : Tiled Reads (.after .start (accessSource v w)) behind later) :
    ∃ span span', tokenize (accessSource v w ++ behind) =
      .ok (⟨.identifier v, span⟩ :: ⟨mark .dot, span'⟩ :: ⟨word w, memberSpan v w⟩ :: later) := by
  have point : Stops isNamePart ('.' :: (w.toList ++ behind)) := by
    rintro _ ⟨⟩
    decide
  have first : Reads v.toList (.identifier v) ('.' :: (w.toList ++ behind)) := by
    simpa [word, target.2] using target.1.reads point
  have dot : Reads ['.'] (mark .dot) (w.toList ++ behind) := .punctuation .dot _
  have member : Reads w.toList (word w) behind := shaped.reads ends
  have place : Position.after .start (accessSource v w) =
      ((Position.after .start v.toList).after ['.']).after w.toList := by
    simp only [accessSource, Position.after_append, Position.after_cons, Position.after_nil]
  rw [place] at tiled
  have split : accessSource v w ++ behind = v.toList ++ (['.'] ++ (w.toList ++ behind)) := by
    simp [accessSource]
  refine ⟨⟨.start, .after .start v.toList⟩,
    ⟨.after .start v.toList, (Position.after .start v.toList).after ['.']⟩, ?_⟩
  rw [memberSpan, split, place, Position.after_append]
  exact tokensFrom_of_tiled (.cons first.ne_end first
    (.cons dot.ne_end dot (.cons member.ne_end member tiled)))

theorem tokenize_call : ∃ span span' later, tokenize (callSource v w) =
      .ok (⟨.identifier v, span⟩ :: ⟨mark .dot, span'⟩ :: ⟨word w, memberSpan v w⟩ :: later) ∧
    later.map SpannedToken.token = [mark .leftParen, mark .rightParen, .endOfInput] := by
  have ends : Stops isNamePart ['(', ')'] := by
    rintro _ ⟨⟩
    decide
  have opening : Reads ['('] (mark .leftParen) [')'] := .punctuation .leftParen _
  have closing : Reads [')'] (mark .rightParen) [] := .punctuation .rightParen _
  obtain ⟨span, span', read⟩ := tokenize_access target shaped ends
    (.cons opening.ne_end opening (.cons closing.ne_end closing (.last _ .nil)))
  exact ⟨span, span', _, read, rfl⟩

end

theorem wordOf_access (v w : String) (span span' span'' : Span) (later : List SpannedToken) :
    wordOf (⟨.identifier v, span⟩ :: ⟨mark .dot, span'⟩ :: ⟨word w, span''⟩ :: later) =
      .identifier v :: mark .dot :: word w :: wordOf later := by
  simp [wordOf, word_ne_end]

/-- A word behind a point names the member, keywords included, if it is no operator; an operator is
refused there. This goes for members that are read and for those that are called. -/
theorem member_words {v w : String} (target : IsVariable v) (shaped : IsWord w) :
    (w ∉ operatorWords →
      (∃ unit, compile (accessSource v w) .expression = .ok unit ∧
        unit.tree.shape = .expression (.get () (.var ⟨v, ()⟩) ⟨w, ()⟩)) ∧
      ∃ unit, compile (callSource v w) .expression = .ok unit ∧
        unit.tree.shape = .expression (.call () (.var ⟨v, ()⟩) ⟨w, ()⟩ [])) ∧
    (w ∈ operatorWords → ∀ source ∈ [accessSource v w, callSource v w],
      compile source .expression =
        .error (.parse ⟨memberSpan v w, .expectedMember (word w)⟩)) := by
  obtain ⟨span, span', read⟩ := tokenize_access target shaped .nil (.last _ .nil)
  rw [List.append_nil] at read
  obtain ⟨calledSpan, calledSpan', later, read', behind⟩ := tokenize_call target shaped
  refine ⟨fun free => ?_, fun listed => ?_⟩
  · have named : (word w).memberText? = some w := by rw [memberText?_word, if_neg free]
    have access (level : Level) : Phrase level [.identifier v, mark .dot, word w] _ :=
      .get (.var v) named
    have call : Phrase .assignment
        [.identifier v, mark .dot, word w, mark .leftParen, mark .rightParen] _ :=
      .call [] (access .chain) (by simp) (by decide)
    have parens : wordOf later = [mark .leftParen, mark .rightParen] := by
      rw [wordOf, behind]
      rfl
    constructor
    · rw [compile_iff_whole read, wordOf_access]
      exact ⟨_, .expression (access .assignment), rfl⟩
    · rw [compile_iff_whole read', wordOf_access, parens]
      exact ⟨_, .expression call, rfl⟩
  · have other : (word w).memberText? = none := by rw [memberText?_word, if_pos listed]
    intro source given
    rcases List.mem_pair.1 given with rfl | rfl
    · exact compile_of_refused read other
    · exact compile_of_refused read' other

/-- A keyword names a member, an operator does not. -/
theorem member_words_size : IsVariable "x" ∧ IsWord "size" ∧ IsWord "mod" ∧
    (∃ unit, compile "x.size".toList .expression = .ok unit ∧
      unit.tree.shape = .expression (.get () (.var ⟨"x", ()⟩) ⟨"size", ()⟩)) ∧
    (∃ unit, compile "x.size()".toList .expression = .ok unit ∧
      unit.tree.shape = .expression (.call () (.var ⟨"x", ()⟩) ⟨"size", ()⟩ [])) ∧
    compile "x.mod()".toList .expression =
      .error (.parse ⟨⟨⟨2, 1, 3⟩, ⟨5, 1, 6⟩⟩, .expectedMember (.sign .percent)⟩) := by
  have x : IsVariable "x" := ⟨⟨'x', [], rfl, by decide, by simp⟩, rfl⟩
  have size : IsWord "size" := isWord_keyword .sizeWord
  have mod : IsWord "mod" := ⟨'m', _, rfl, by decide, List.all_eq_true.1 (by decide)⟩
  obtain ⟨named, -⟩ := member_words x size
  obtain ⟨access, call⟩ := named (by decide)
  exact ⟨x, size, mod, access, call,
    (member_words x mod).2 (by decide) "x.mod()".toList (List.mem_pair.2 (.inr rfl))⟩

/-- The operator `and` has the shape of a name, but names no member. -/
theorem operator_word_names_no_member : IsWord "and" ∧
    ¬ ∃ unit, compile "x.and".toList .expression = .ok unit ∧
      unit.tree.shape = .expression (.get () (.var ⟨"x", ()⟩) ⟨"and", ()⟩) := by
  refine ⟨⟨'a', _, rfl, by decide, List.all_eq_true.1 (by decide)⟩, fun ⟨unit, compiled, _⟩ => ?_⟩
  have fails : (compile "x.and".toList .expression).isOk = false := by decide +kernel
  rw [compiled] at fails
  cases fails

end ExprScript
