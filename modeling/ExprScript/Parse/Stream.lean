import ExprScript.Parse.Error

/-!
# Token streams

The tokens still to be parsed and the span of the one taken last. A stream without tokens shows an
end token behind the last one taken. A parser either takes tokens and gives a value, or stops with
an error at some rest of the stream; `Parsed α bound` says that fewer than `bound` tokens are left,
which is why every parser ends.
-/

namespace ExprScript

/-- The tokens ahead, and the span of the last token taken. -/
structure Stream where
  rest : List SpannedToken
  last : Span
deriving DecidableEq

namespace Stream

def ofTokens (tokens : List SpannedToken) : Stream := ⟨tokens, .nowhere⟩

/-- How many tokens are ahead. -/
def size (s : Stream) : Nat := s.rest.length

def current (s : Stream) : SpannedToken :=
  s.rest.headD ⟨.endOfInput, .point s.last.stop⟩

/-- The stream behind the token ahead. -/
def next (s : Stream) : Stream :=
  ⟨s.rest.tail, s.current.span⟩

/-- Whether the token ahead is `t`. -/
def sees (s : Stream) (t : Token) : Bool :=
  s.current.token == t

/-- A measure of the parsers that call each other: those that take no token before they call another
have the higher level. -/
def rank (s : Stream) (level : Nat) : Nat := 4 * s.size + level

theorem rank_lt_of_fewer {r s : Stream} {m n : Nat} (fewer : r.size < s.size) (low : m < 4) :
    r.rank m < s.rank n := by
  unfold rank
  omega

theorem rank_lt_of_lower (s : Stream) {m n : Nat} (lower : m < n) : s.rank m < s.rank n :=
  Nat.add_lt_add_left lower _

/-- A token that is not the end token is really there, so passing it leaves fewer. -/
theorem size_next_lt {s : Stream} (h : s.current.token ≠ .endOfInput) : s.next.size < s.size := by
  cases s with
  | mk rest last => cases rest <;> simp_all [current, next, size]

theorem size_next_lt_of_mark {s : Stream} {mark : Punctuation}
    (h : s.current.token = .punctuation mark) : s.next.size < s.size :=
  size_next_lt (by simp [h])

theorem size_lt_trans {r s t : Stream} (h : r.size < s.size) (h' : s.size < t.size) :
    r.size < t.size :=
  Nat.lt_trans h h'

end Stream

/-- The outcome of a parser that leaves fewer than `bound` tokens. -/
inductive Parsed (α : Type) (bound : Nat) where
  | done (value : α) (rest : Stream) (fewer : rest.size < bound)
  | failed (error : SyntaxError) (rest : Stream)

namespace Parsed

variable {α β : Type}

def andThen {m n : Nat} (p : Parsed α m)
    (f : (value : α) → (rest : Stream) → rest.size < m → Parsed β n) : Parsed β n :=
  match p with
  | done value rest fewer => f value rest fewer
  | failed error rest => failed error rest

/-- The same outcome with a weaker bound. -/
def widen {m n : Nat} (p : Parsed α m) (h : m ≤ n) : Parsed α n :=
  match p with
  | done value rest fewer => done value rest (Nat.lt_of_lt_of_le fewer h)
  | failed error rest => failed error rest

end Parsed

namespace Stream

/-- Stops at the token ahead. -/
def fail {α : Type} {bound : Nat} (s : Stream) (cause : SyntaxCause) : Parsed α bound :=
  .failed ⟨s.current.span, cause⟩ s

/-- Takes a mark that has to follow a construct. -/
def expect (s : Stream) (mark : Punctuation) (after : Construct) : Parsed Unit s.size :=
  if h : s.current.token = .punctuation mark then .done () s.next (size_next_lt_of_mark h)
  else s.fail (.expectedAfter mark after s.current.token)

/-- The closing mark of an opening one. -/
def closing : Punctuation → Punctuation
  | .leftParen => .rightParen
  | .leftBracket => .rightBracket
  | _ => .rightBrace

/-- Takes the mark that closes `opening`; at the end of the input the opening one, whose span is
`opened`, is to blame. -/
def close (s : Stream) (opening : Punctuation) (after : Construct) (opened : Span) :
    Parsed Unit s.size :=
  if s.current.token = .endOfInput then .failed ⟨opened, .unclosed opening⟩ s
  else s.expect (closing opening) after

end Stream

end ExprScript
