import ExprScript.Parse.Precedence
import ExprScript.Parse.Stream

/-!
# Parsing expressions

An expression is an operand and what is joined to it by connectives that bind tightly enough for
the context. Every parser here takes at least one token, the loops apart, which take none when
nothing follows.
-/

namespace ExprScript.Stream

/-- The tree of an assignment, if its left side can be assigned to. -/
def assignTo? (span : Span) (value : Expr Span) : Expr Span → Option (Expr Span)
  | .var name => some (.assign span name value)
  | .get _ target member => some (.assignMember span target member value)
  | .index _ target key => some (.assignIndex span target key value)
  | _ => none

/-- The name of a member: any name or keyword. -/
def memberName (s : Stream) : Parsed (Name Span) s.size :=
  match h : s.current.token with
  | .identifier name => .done ⟨name, s.current.span⟩ s.next (size_next_lt (by simp [h]))
  | .keyword word => .done ⟨word.text, s.current.span⟩ s.next (size_next_lt (by simp [h]))
  | found => s.fail (.expectedMember found)

/-- A token that is an operand of its own. -/
def literal? : SpannedToken → Option (Expr Span)
  | ⟨.integer value, span⟩ => some (.literal span (.integer value))
  | ⟨.float value, span⟩ => some (.literal span (.float value))
  | ⟨.string value, span⟩ => some (.literal span (.string value))
  | ⟨.keyword .trueWord, span⟩ => some (.literal span (.boolean true))
  | ⟨.keyword .falseWord, span⟩ => some (.literal span (.boolean false))
  | ⟨.keyword .nullWord, span⟩ => some (.literal span .null)
  | ⟨.identifier name, span⟩ => some (.var ⟨name, span⟩)
  | _ => none

/-- The arguments of a call, unless there are too many. -/
def countedArguments {bound : Nat} (arguments : List (Expr Span)) (s : Stream)
    (fewer : s.size < bound) : Parsed (List (Expr Span)) bound :=
  match arguments[maxArguments]? with
  | some extra => .failed ⟨extra.span, .tooManyArguments⟩ s
  | none => .done arguments s fewer

theorem ne_end_of_literal? {t : SpannedToken} {e : Expr Span} (h : literal? t = some e) :
    t.token ≠ .endOfInput := by
  cases t
  rintro rfl
  simp [literal?] at h

theorem ne_end_of_ofToken? {t : Token} {c : Connective} (h : Connective.ofToken? t = some c) :
    t ≠ .endOfInput := by
  rintro rfl
  simp [Connective.ofToken?] at h

mutual

/-- An operand and what is joined to it as far as the context allows. -/
def expression (context : Precedence) (s : Stream) : Parsed (Expr Span) s.size :=
  (operand s).andThen fun lhs r shorter => (joined context lhs r).widen shorter
termination_by s.rank 2
decreasing_by all_goals first
  | exact rank_lt_of_fewer (by assumption) (by decide)
  | exact rank_lt_of_lower _ (by decide)

/-- A literal, a variable, a call of a built-in function, an expression in parentheses, or an
operator and its operand. Parentheses leave no trace in the tree. -/
def operand (s : Stream) : Parsed (Expr Span) s.size :=
  match h : s.current.token with
  | .sign .bang => unary .logicalNot s (by simp [h])
  | .sign .minus => unary .negate s (by simp [h])
  | .sign .tilde => unary .bitNot s (by simp [h])
  | .keyword .sizeWord => builtinCall .size s (by simp [h])
  | .keyword .emptyWord => builtinCall .empty s (by simp [h])
  | .punctuation .leftParen =>
    have passed := size_next_lt_of_mark h
    (expression .lowest s.next).andThen fun e r fewer =>
    have shorter := size_lt_trans fewer passed
    (r.close .leftParen .expression s.current.span).andThen fun _ r fewer =>
    .done e r (size_lt_trans fewer shorter)
  | found =>
    match l : literal? s.current with
    | some e => .done e s.next (size_next_lt (ne_end_of_literal? l))
    | none => s.fail (.expectedExpression found)
termination_by s.rank 1
decreasing_by all_goals first
  | exact rank_lt_of_fewer (by assumption) (by decide)
  | exact rank_lt_of_lower _ (by decide)

def unary (op : UnaryOp) (s : Stream) (h : s.current.token ≠ .endOfInput) :
    Parsed (Expr Span) s.size :=
  have passed : s.next.size < s.size := size_next_lt h
  (expression .unary s.next).andThen fun e r fewer =>
  .done (.unary (s.current.span.extend r.last) op e) r (size_lt_trans fewer passed)
termination_by s.rank 0
decreasing_by all_goals exact rank_lt_of_fewer (by assumption) (by decide)

/-- The name of a built-in function and its argument in parentheses. -/
def builtinCall (function : Builtin) (s : Stream) (h : s.current.token ≠ .endOfInput) :
    Parsed (Expr Span) s.size :=
  have passed : s.next.size < s.size := size_next_lt h
  (s.next.expect .leftParen .functionName).andThen fun _ r fewer =>
  have shorter := size_lt_trans fewer passed
  (arguments s.next.current.span r).andThen fun found r fewer =>
  let span := s.current.span.extend r.last
  match found with
  | [argument] => .done (.builtin span function argument) r (size_lt_trans fewer shorter)
  | _ => .failed ⟨span, .arity function found.length⟩ r
termination_by s.rank 0
decreasing_by all_goals exact rank_lt_of_fewer (by assumption) (by decide)

/-- The arguments behind an opening parenthesis, and the closing one. -/
def arguments (opened : Span) (s : Stream) : Parsed (List (Expr Span)) s.size :=
  if h : s.current.token = .punctuation .rightParen then
    .done [] s.next (size_next_lt_of_mark h)
  else
    (expression .lowest s).andThen fun first r shorter =>
    (moreArguments opened r).andThen fun others r fewer =>
    countedArguments (first :: others) r (size_lt_trans fewer shorter)
termination_by s.rank 3
decreasing_by all_goals first
  | exact rank_lt_of_fewer (by assumption) (by decide)
  | exact rank_lt_of_lower _ (by decide)

/-- The arguments behind an argument, each after a comma, and the closing parenthesis. -/
def moreArguments (opened : Span) (s : Stream) : Parsed (List (Expr Span)) s.size :=
  if h : s.current.token = .punctuation .rightParen then
    .done [] s.next (size_next_lt_of_mark h)
  else if s.current.token = .endOfInput then .failed ⟨opened, .unclosed .leftParen⟩ s
  else if h : s.current.token = .punctuation .comma then
    have passed := size_next_lt_of_mark h
    (expression .lowest s.next).andThen fun argument r fewer =>
    have shorter := size_lt_trans fewer passed
    (moreArguments opened r).andThen fun others r fewer =>
    .done (argument :: others) r (size_lt_trans fewer shorter)
  else s.fail (.expectedAfter .rightParen .arguments s.current.token)
termination_by s.rank 0
decreasing_by all_goals exact rank_lt_of_fewer (by assumption) (by decide)

/-- An operand that is already there and what is joined to it as far as the context allows. -/
def joined (context : Precedence) (lhs : Expr Span) (s : Stream) :
    Parsed (Expr Span) (s.size + 1) :=
  match h : Connective.ofToken? s.current.token with
  | none => .done lhs s (Nat.lt_add_one _)
  | some connective =>
    if connective.binds context then
      (join connective lhs s (ne_end_of_ofToken? h)).andThen fun lhs r shorter =>
      (joined context lhs r).widen (Nat.le_succ_of_le shorter)
    else .done lhs s (Nat.lt_add_one _)
termination_by s.rank 1
decreasing_by all_goals first
  | exact rank_lt_of_fewer (by assumption) (by decide)
  | exact rank_lt_of_lower _ (by decide)

/-- An operand and what the connective ahead joins to it. -/
def join (connective : Connective) (lhs : Expr Span) (s : Stream)
    (h : s.current.token ≠ .endOfInput) : Parsed (Expr Span) s.size :=
  have passed : s.next.size < s.size := size_next_lt h
  let sign := s.current.span
  match connective with
  | .binary op =>
    (expression connective.precedence s.next).andThen fun rhs r fewer =>
    .done (.binary (lhs.span.extend r.last) op lhs rhs) r (size_lt_trans fewer passed)
  | .logical op =>
    (expression connective.precedence s.next).andThen fun rhs r fewer =>
    .done (.logical (lhs.span.extend r.last) op lhs rhs) r (size_lt_trans fewer passed)
  | .assignment =>
    (expression connective.precedence s.next).andThen fun value r fewer =>
    match assignTo? (lhs.span.extend r.last) value lhs with
    | some e => .done e r (size_lt_trans fewer passed)
    | none => .failed ⟨sign, .invalidTarget⟩ r
  | .ternary =>
    (expression .lowest s.next).andThen fun yes r fewer =>
    have shorter := size_lt_trans fewer passed
    (r.expect .colon .thenBranch).andThen fun _ r fewer =>
    have shorter := size_lt_trans fewer shorter
    (expression connective.precedence r).andThen fun no r fewer =>
    .done (.ternary (lhs.span.extend r.last) lhs yes no) r (size_lt_trans fewer shorter)
  | .elvis =>
    (expression connective.precedence s.next).andThen fun rhs r fewer =>
    .done (.elvis (lhs.span.extend r.last) lhs rhs) r (size_lt_trans fewer passed)
  | .call =>
    (arguments sign s.next).andThen fun found r fewer =>
    match lhs with
    | .get _ target method =>
      .done (.call (lhs.span.extend r.last) target method found) r (size_lt_trans fewer passed)
    | _ => .failed ⟨lhs.span, .notCallable⟩ r
  | .member =>
    s.next.memberName.andThen fun member r fewer =>
    .done (.get (lhs.span.extend r.last) lhs member) r (size_lt_trans fewer passed)
  | .index =>
    (expression .lowest s.next).andThen fun key r fewer =>
    have shorter := size_lt_trans fewer passed
    (r.close .leftBracket .index sign).andThen fun _ r fewer =>
    .done (.index (lhs.span.extend r.last) lhs key) r (size_lt_trans fewer shorter)
termination_by s.rank 0
decreasing_by all_goals exact rank_lt_of_fewer (by assumption) (by decide)

end

end ExprScript.Stream
