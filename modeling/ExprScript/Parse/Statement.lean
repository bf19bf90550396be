import ExprScript.Parse.Expression

/-!
# Parsing statements and units

A statement is found by its first token. An expression statement ends with a semicolon, which may be
left out before a closing brace and at the end of the input. `parse` reads a whole token sequence as
a unit of the given mode.
-/

namespace ExprScript

namespace Stream

/-- The parenthesized condition behind a keyword. -/
def condition (keyword : Construct) (s : Stream) : Parsed (Expr Span) s.size :=
  (s.expect .leftParen keyword).andThen fun _ r shorter =>
  (expression .lowest r).andThen fun e r fewer =>
  have shorter := size_lt_trans fewer shorter
  (r.close .leftParen .condition s.current.span).andThen fun _ r fewer =>
  .done e r (size_lt_trans fewer shorter)

/-- An expression and the end of its statement. -/
def expressionStatement (s : Stream) : Parsed (Stmt Span) s.size :=
  (expression .lowest s).andThen fun e r shorter =>
  if h : r.current.token = .punctuation .semicolon then
    have passed := size_next_lt_of_mark h
    .done (.expr (s.current.span.extend r.next.last) e) r.next (size_lt_trans passed shorter)
  else if r.current.token = .punctuation .rightBrace ∨ r.current.token = .endOfInput then
    .done (.expr (s.current.span.extend r.last) e) r shorter
  else r.fail (.expectedAfter .semicolon .expression r.current.token)

mutual

def statement (s : Stream) : Parsed (Stmt Span) s.size :=
  match h : s.current.token with
  | .punctuation .semicolon =>
    .done (.empty (s.current.span.extend s.next.last)) s.next (size_next_lt_of_mark h)
  | .keyword .ifWord => conditional s (by simp [h])
  | .keyword .whileWord => loop s (by simp [h])
  | .punctuation .leftBrace =>
    have passed := size_next_lt_of_mark h
    (block s.current.span s.next).andThen fun body r fewer =>
    .done (.block (s.current.span.extend r.last) body) r (size_lt_trans fewer passed)
  | _ => expressionStatement s
termination_by s.rank 1
decreasing_by all_goals first
  | exact rank_lt_of_fewer (by assumption) (by decide)
  | exact rank_lt_of_lower _ (by decide)

/-- A conditional; an `else` belongs to the nearest conditional before it. -/
def conditional (s : Stream) (h : s.current.token ≠ .endOfInput) : Parsed (Stmt Span) s.size :=
  have passed : s.next.size < s.size := size_next_lt h
  (condition .ifWord s.next).andThen fun test r fewer =>
  have shorter := size_lt_trans fewer passed
  (statement r).andThen fun yes r fewer =>
  have shorter := size_lt_trans fewer shorter
  if other : r.current.token = .keyword .elseWord then
    have passed : r.next.size < r.size := size_next_lt (by simp [other])
    have shorter := size_lt_trans passed shorter
    (statement r.next).andThen fun no r fewer =>
    .done (.ifElse (s.current.span.extend r.last) test yes no) r (size_lt_trans fewer shorter)
  else .done (.ifThen (s.current.span.extend r.last) test yes) r shorter
termination_by s.rank 0
decreasing_by all_goals exact rank_lt_of_fewer (by assumption) (by decide)

def loop (s : Stream) (h : s.current.token ≠ .endOfInput) : Parsed (Stmt Span) s.size :=
  have passed : s.next.size < s.size := size_next_lt h
  (condition .whileWord s.next).andThen fun test r fewer =>
  have shorter := size_lt_trans fewer passed
  (statement r).andThen fun body r fewer =>
  .done (.loop (s.current.span.extend r.last) test body) r (size_lt_trans fewer shorter)
termination_by s.rank 0
decreasing_by all_goals exact rank_lt_of_fewer (by assumption) (by decide)

/-- The statements behind an opening brace, and the closing one. -/
def block (opened : Span) (s : Stream) : Parsed (List (Stmt Span)) s.size :=
  if s.current.token = .punctuation .rightBrace ∨ s.current.token = .endOfInput then
    (s.close .leftBrace .block opened).andThen fun _ r fewer => .done [] r fewer
  else
    (statement s).andThen fun first r shorter =>
    (block opened r).andThen fun others r fewer =>
    .done (first :: others) r (size_lt_trans fewer shorter)
termination_by s.rank 2
decreasing_by all_goals first
  | exact rank_lt_of_fewer (by assumption) (by decide)
  | exact rank_lt_of_lower _ (by decide)

end

/-- Statements up to the end of the input. -/
def script (s : Stream) : Parsed (List (Stmt Span)) (s.size + 1) :=
  if s.current.token = .endOfInput then .done [] s (Nat.lt_add_one _)
  else
    (statement s).andThen fun first r shorter =>
    (script r).andThen fun others r fewer =>
    .done (first :: others) r (Nat.lt_trans fewer (Nat.succ_lt_succ shorter))
termination_by s.size
decreasing_by assumption

/-- The stream without a semicolon ahead. -/
def skipSemicolon (s : Stream) : Stream :=
  if s.current.token = .punctuation .semicolon then s.next else s

theorem size_skipSemicolon_le (s : Stream) : s.skipSemicolon.size ≤ s.size := by
  unfold skipSemicolon
  split
  · rename_i h
    exact Nat.le_of_lt (size_next_lt (by simp [h]))
  · exact Nat.le_refl _

theorem size_skipSemicolon_lt {r s : Stream} (h : r.size < s.size) :
    r.skipSemicolon.size < s.size + 1 :=
  Nat.lt_of_le_of_lt r.size_skipSemicolon_le (Nat.lt_succ_of_lt h)

/-- A unit of the given mode, up to the end of the input. -/
def unit (mode : Mode) (s : Stream) : Parsed (Tree Span) (s.size + 1) :=
  match mode with
  | .expression =>
    (expression .lowest s).andThen fun e r shorter =>
    if r.skipSemicolon.current.token = .endOfInput then
      .done (.expression e) r.skipSemicolon (size_skipSemicolon_lt shorter)
    else r.skipSemicolon.fail (.trailing r.skipSemicolon.current.token)
  | .script => (script s).andThen fun body r fewer => .done (.script body) r fewer

end Stream

def parse (tokens : List SpannedToken) (mode : Mode) : Except SyntaxError (Tree Span) :=
  match (Stream.ofTokens tokens).unit mode with
  | .done tree _ _ => .ok tree
  | .failed error _ => .error error

end ExprScript
