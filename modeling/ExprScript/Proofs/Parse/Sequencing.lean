import ExprScript.Proofs.Grammar.Exactness
import ExprScript.Proofs.Parse.Terminating
import ExprScript.Proofs.Source.Order

/-!
# Scripts behind each other

The statements of one token sequence and of another with a semicolon between them are those of the
first, the last of them ended by the semicolon or an empty statement behind it, and those of the
second.
-/

namespace ExprScript

/-! ### Trees that stay where they are -/

theorem Name.map_id (name : Name Span) : name.map id = name := rfl

mutual

theorem Expr.map_id (e : Expr Span) : e.map id = e := by
  cases e with
  | literal | var => rfl
  | binary _ _ lhs rhs | logical _ _ lhs rhs | elvis _ lhs rhs =>
    simp only [map, map_id lhs, map_id rhs, id_eq]
  | unary _ _ operand | builtin _ _ operand => simp only [map, map_id operand, id_eq]
  | ternary _ condition yes no =>
    simp only [map, map_id condition, map_id yes, map_id no, id_eq]
  | assign _ _ value => simp only [map, map_id value, Name.map_id, id_eq]
  | get _ target _ => simp only [map, map_id target, Name.map_id, id_eq]
  | index _ target key => simp only [map, map_id target, map_id key, id_eq]
  | assignMember _ target _ value =>
    simp only [map, map_id target, map_id value, Name.map_id, id_eq]
  | assignIndex _ target key value =>
    simp only [map, map_id target, map_id key, map_id value, id_eq]
  | call _ target _ arguments =>
    simp only [map, map_id target, Expr.mapAll_id arguments, Name.map_id, id_eq]

theorem Expr.mapAll_id (es : List (Expr Span)) : mapAll id es = es := by
  cases es with
  | nil => rfl
  | cons e rest => rw [mapAll, Expr.map_id e, mapAll_id rest]

end

mutual

theorem Stmt.map_id (s : Stmt Span) : s.map id = s := by
  cases s with
  | expr _ body => simp only [map, Expr.map_id, id_eq]
  | block _ body => simp only [map, Stmt.mapAll_id body, id_eq]
  | ifThen _ condition yes => simp only [map, Expr.map_id, map_id yes, id_eq]
  | ifElse _ condition yes no => simp only [map, Expr.map_id, map_id yes, map_id no, id_eq]
  | loop _ condition body => simp only [map, Expr.map_id, map_id body, id_eq]
  | empty => rfl

theorem Stmt.mapAll_id (body : List (Stmt Span)) : mapAll id body = body := by
  cases body with
  | nil => rfl
  | cons s rest => rw [mapAll, Stmt.map_id s, mapAll_id rest]

end

theorem Stmt.map_map_id (body : List (Stmt Span)) : body.map (Stmt.map id) = body := by
  rw [← Stmt.mapAll_eq_map, Stmt.mapAll_id]

namespace Stream

open Parsed

variable {s s' r m : Stream} {word : List Token} {t : Stmt Span} {body others : List (Stmt Span)}

/-! ### What is read depends on the tokens ahead -/

theorem expression_alike {p : Precedence} {e : Expr Span} (current : s'.current = s.current)
    (next : s'.next = s.next) (h : (expression p s).Gives e r) : (expression p s').Gives e r := by
  obtain ⟨lhs, m, first, more⟩ := expression_gives.1 h
  refine expression_gives.2 ⟨lhs, m, ?_, more⟩
  rw [operand_gives, current, next]
  exact operand_gives.1 first

theorem statement_alike (current : s'.current = s.current) (next : s'.next = s.next)
    (h : (statement s).Gives t r) : (statement s').Gives t r := by
  refine statement_gives.2 ?_
  cases statement_gives.1 h with
  | empty token => exact current ▸ next ▸ .empty (current ▸ token)
  | ifThen token first second none =>
    exact current ▸ .ifThen (current ▸ token) (next ▸ first) second none
  | ifElse token first second other third =>
    exact current ▸ .ifElse (current ▸ token) (next ▸ first) second other third
  | loop token first second => exact current ▸ .loop (current ▸ token) (next ▸ first) second
  | block token inner => exact current ▸ .block (current ▸ token) (next ▸ current ▸ inner)
  | expr inner =>
    obtain ⟨e, m, first, rfl, ended⟩ := expressionStatement_gives.1 inner
    exact .expr (expressionStatement_gives.2
      ⟨e, m, expression_alike current next first, by rw [current], ended⟩)

/-- Statements up to the end of the input are read wherever the same tokens are ahead. -/
theorem Sequence.restart (h : Sequence s body r) (last : r.current.token = .endOfInput)
    (rest : s'.rest = s.rest) (ahead : s.rest ≠ []) :
    ∃ r', Sequence s' body r' ∧ r'.current.token = .endOfInput := by
  obtain ⟨first, more, same⟩ := List.exists_cons_of_ne_nil ahead
  have current : s'.current = s.current := by simp [current, rest, same]
  have next : s'.next = s.next := by simp [next, current, rest]
  cases h with
  | nil => exact ⟨s', .nil, by rwa [current]⟩
  | cons found more => exact ⟨r, .cons (statement_alike current next found) more, last⟩

theorem Sequence.append (h : Sequence s body m) (h' : Sequence m others r) :
    Sequence s (body ++ others) r := by
  induction h with
  | nil => exact h'
  | cons found _ ih => exact .cons found (ih h')

/-- A sequence of statements does not start with `else`. -/
theorem Sequence.ne_else (h : Sequence s body r) (last : r.current.token = .endOfInput) :
    s.current.token ≠ .keyword .elseWord := by
  cases h with
  | nil => simp [last]
  | cons found => exact (opens_of_statement_gives found).1

/-! ### Tokens in order -/

/-- The tokens ahead are in order and end before a span does. -/
structure Ordered (z : Span) (s : Stream) : Prop where
  starts : s.inside.Pairwise fun t t' => t.span.start.byte < t'.span.start.byte
  stops : ∀ t ∈ s.inside, t.span.stop.byte < z.stop.byte

theorem Ordered.takes {z : Span} (h : Ordered z s) (taken : Takes s word r) : Ordered z r := by
  induction taken with
  | nil => exact h
  | cons inside _ ih =>
    obtain ⟨starts, stops⟩ := h
    rw [inside_of_current inside] at starts stops
    exact ih ⟨(List.pairwise_cons.1 starts).2, (List.forall_mem_cons.1 stops).2⟩

/-- The last token taken was ahead. -/
theorem Takes.last_mem (taken : Takes s word r) (nonempty : word ≠ []) :
    ∃ t ∈ s.inside, t.span = r.last := by
  induction taken with
  | nil => exact absurd rfl nonempty
  | @cons s word r inside later ih =>
    rw [inside_of_current inside]
    cases word with
    | nil =>
      obtain rfl := Takes.nil_iff.1 later
      exact ⟨s.current, List.mem_cons_self, rfl⟩
    | cons second others =>
      obtain ⟨t, mem, same⟩ := ih (List.cons_ne_nil _ _)
      exact ⟨t, List.mem_cons_of_mem _ mem, same⟩

theorem Ordered.extend {z : Span} (h : Ordered z s) (taken : Takes s word r)
    (nonempty : word ≠ []) :
    (s.current.span.extend r.last).extend z = s.current.span.extend z := by
  obtain ⟨t, mem, same⟩ := taken.last_mem nonempty
  obtain ⟨starts, stops⟩ := h
  cases taken with
  | nil => exact absurd rfl nonempty
  | cons inside later =>
    have ends' := stops t mem
    rw [inside_of_current inside] at starts stops mem
    rw [← same]
    refine Span.extend_extend ?_ (stops _ List.mem_cons_self) ends'
    rcases List.mem_cons.1 mem with rfl | mem
    · exact .inl rfl
    · exact .inr ((List.pairwise_cons.1 starts).1 t mem)

end Stream

/-- The statements of a script with a semicolon behind it: the last one is ended by it, or it is an
empty statement. -/
inductive Stmt.Closed (semicolon : Span) : List (Stmt Span) → List (Stmt Span) → Prop where
  | terminated (front : List (Stmt Span)) {t : Stmt Span} (takes : t.takesSemicolon = true) :
      Closed semicolon (front ++ [t]) (front ++ [t.terminated semicolon])
  | empty (body : List (Stmt Span)) : Closed semicolon body (body ++ [.empty semicolon])

theorem parse_script_iff {tokens : List SpannedToken} {body : List (Stmt Span)} :
    parse tokens .script = .ok (.script body) ↔
      ∃ r, Stream.Sequence (.ofTokens tokens) body r ∧ r.current.token = .endOfInput := by
  simp only [parse_eq_ok_iff, Stream.unit_script, Stream.script_gives, Tree.script.injEq,
    exists_eq_right]

/-- A semicolon in the place of the end of the input, and tokens that a script starts with. -/
def Continuation.closing (semicolon : Span) (later : List SpannedToken)
    (noElse : ∀ t ∈ later.head?, t.token ≠ .keyword .elseWord) : Continuation where
  move := id
  move_extend _ _ := rfl
  tail := ⟨.punctuation .semicolon, semicolon⟩ :: later
  closes := by simp
  noElse := noElse

/-- The same tokens at other places. -/
def Continuation.moving (f : Span → Span)
    (extend : ∀ a b, f (a.extend b) = (f a).extend (f b)) (stop : Span) : Continuation where
  move := f
  move_extend := extend
  tail := [⟨.endOfInput, stop⟩]
  closes := by simp
  noElse := by simp

/-- Tokens with the end token behind them. -/
structure Marked (tokens front : List SpannedToken) (stop : Span) : Prop where
  split : tokens = front ++ [⟨.endOfInput, stop⟩]
  inside : ∀ t ∈ front, t.token ≠ .endOfInput

namespace Stream

variable {tokens front : List SpannedToken} {stop z : Span} {body : List (Stmt Span)}

theorem inside_ofTokens (marked : Marked tokens front stop) : (ofTokens tokens).inside = front := by
  rw [marked.split, ofTokens, inside, List.takeWhile_append_of_pos (by simpa using marked.inside)]
  simp

/-- A script in front of a semicolon and of tokens that a script starts with: its statements are
read up to the tokens behind the semicolon. -/
theorem sequence_before_semicolon {later : List SpannedToken} {r : Stream}
    (marked : Marked tokens front stop) (ordered : Ordered z (ofTokens tokens))
    (noElse : ∀ t ∈ later.head?, t.token ≠ .keyword .elseWord)
    (h : Sequence (ofTokens tokens) body r) (last : r.current.token = .endOfInput) :
    ∃ body', Stmt.Closed z body body' ∧
      Sequence (ofTokens (front ++ ⟨.punctuation .semicolon, z⟩ :: later)) body' ⟨later, z⟩ := by
  have covers : Covers (.closing z later noElse) (ofTokens tokens) := by
    intro z' later' tail word m word' r' taken taken' nonempty
    obtain ⟨rfl, -⟩ : z = z' ∧ later = later' := by simpa [Continuation.closing] using tail
    exact (ordered.takes taken).extend taken' nonempty
  have start : (ofTokens tokens).continued (.closing z later noElse) =
      ofTokens (front ++ ⟨.punctuation .semicolon, z⟩ :: later) := by
    have still : front.map (·.move id) = front := List.map_id front
    rw [continued, inside_ofTokens marked]
    simp only [Continuation.closing, still]
    rfl
  obtain ⟨body', r', sequence, ends⟩ :=
    sequence_continued covers (fun m _ => statement_continued m) h
  rw [start] at sequence
  cases ends with
  | kept =>
    -- nothing has taken the semicolon, so it is a statement
    have rest : (r.continued (.closing z later noElse)).rest =
        ⟨.punctuation .semicolon, z⟩ :: later := continued_of_end _ last
    have semicolon : (r.continued (.closing z later noElse)).current =
        ⟨.punctuation .semicolon, z⟩ := by
      simp [current, rest]
    have behind : (r.continued (.closing z later noElse)).next = ⟨later, z⟩ := by
      simp [next, semicolon, rest]
    have empty := Statement.empty (s := r.continued (.closing z later noElse)) (by rw [semicolon])
    rw [semicolon, behind, Span.extend_self] at empty
    have same : body.map (Stmt.map (Continuation.closing z later noElse).move) = body :=
      Stmt.map_map_id body
    rw [same] at sequence
    exact ⟨_, .empty body, sequence.append (.cons (statement_gives.2 empty) .nil)⟩
  | @closed front' t z' later' last tail takes split =>
    obtain ⟨rfl, rfl⟩ : z = z' ∧ later = later' := by simpa [Continuation.closing] using tail
    have same : front'.map (Stmt.map (Continuation.closing z later noElse).move) = front' :=
      Stmt.map_map_id front'
    have same' : t.map (Continuation.closing z later noElse).move = t := Stmt.map_id t
    rw [same, same'] at sequence
    exact ⟨_, split ▸ .terminated front' takes, sequence⟩

/-- A script is read as well at another place. -/
theorem sequence_moved {f : Span → Span} {r : Stream}
    (extend : ∀ a b, f (a.extend b) = (f a).extend (f b)) (marked : Marked tokens front stop)
    (h : Sequence (ofTokens tokens) body r) (last : r.current.token = .endOfInput) :
    ∃ r', Sequence ⟨tokens.map (·.move f), z⟩ (body.map (Stmt.map f)) r' ∧
      r'.current.token = .endOfInput := by
  have covers : Covers (.moving f extend (f stop)) (ofTokens tokens) := by
    intro z' later' tail
    simp [Continuation.moving] at tail
  have start : ((ofTokens tokens).continued (.moving f extend (f stop))).rest =
      tokens.map (·.move f) := by
    rw [continued, inside_ofTokens marked, marked.split]
    simp [Continuation.moving, SpannedToken.move]
  obtain ⟨body', r', sequence, ends⟩ :=
    sequence_continued covers (fun m _ => statement_continued m) h
  cases ends with
  | kept =>
    have rest : (r.continued (.moving f extend (f stop))).rest = [⟨.endOfInput, f stop⟩] :=
      continued_of_end _ last
    have ended : (r.continued (.moving f extend (f stop))).current.token = .endOfInput := by
      simp [current, rest]
    exact sequence.restart ended start.symm (by rw [start, marked.split]; simp)
  | closed _ _ tail => simp [Continuation.moving] at tail

end Stream

/-- Two scripts with a semicolon between them are a script. -/
theorem parse_sequenced {tokens tokens' front front' : List SpannedToken} {stop stop' z : Span}
    {f : Span → Span} {body body' : List (Stmt Span)}
    (extend : ∀ a b, f (a.extend b) = (f a).extend (f b)) (marked : Marked tokens front stop)
    (marked' : Marked tokens' front' stop') (ordered : Stream.Ordered z (.ofTokens tokens))
    (h : parse tokens .script = .ok (.script body))
    (h' : parse tokens' .script = .ok (.script body')) :
    ∃ closed, Stmt.Closed z body closed ∧
      parse (front ++ ⟨.punctuation .semicolon, z⟩ :: tokens'.map (·.move f)) .script =
        .ok (.script (closed ++ body'.map (Stmt.map f))) := by
  obtain ⟨r, sequence, last⟩ := parse_script_iff.1 h
  obtain ⟨r', sequence', last'⟩ := parse_script_iff.1 h'
  have noElse : ∀ t ∈ (tokens'.map (·.move f)).head?, t.token ≠ .keyword .elseWord := by
    have opens := sequence'.ne_else last'
    rw [marked'.split] at opens ⊢
    cases front' with
    | nil => simp [SpannedToken.move]
    | cons t others => simpa [SpannedToken.move, Stream.ofTokens, Stream.current] using opens
  obtain ⟨closed, closes, read⟩ :=
    Stream.sequence_before_semicolon marked ordered noElse sequence last
  obtain ⟨r'', read', last''⟩ := Stream.sequence_moved (z := z) extend marked' sequence' last'
  exact ⟨closed, closes, parse_script_iff.2 ⟨r'', read.append read', last''⟩⟩

end ExprScript
