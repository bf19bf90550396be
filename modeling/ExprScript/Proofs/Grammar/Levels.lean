import ExprScript.Parse.Precedence
import ExprScript.Proofs.Grammar.Basic

/-!
# Levels and precedences

A context of the parser reads the expressions of one level. A connective is joined in a context
just when the expression it makes is of that level, and it leaves a phrase whole just when its left
side may be of the phrase's level.
-/

namespace ExprScript

namespace Grammar.Level

theorem le_refl (a : Level) : a ≤ a := Nat.le_refl _

theorem le_trans {a b c : Level} (h : a ≤ b) (h' : b ≤ c) : a ≤ c := Nat.le_trans h h'

theorem le_chain (a : Level) : a ≤ chain := by cases a <;> decide

/-- The context in which the right side of a level's expressions is read. -/
def context : Level → Precedence
  | assignment => .assignment
  | choice => .ternary
  | disjunction => .logicalOr
  | conjunction => .logicalAnd
  | bitOr => .bitOr
  | bitXor => .bitXor
  | bitAnd => .bitAnd
  | equality => .equality
  | relation => .comparison
  | sum => .addition
  | product => .multiplication
  | signed => .unary
  | chain => .call

/-- The level of the expressions read in a context. -/
def readIn : Precedence → Level
  | .lowest | .assignment => assignment
  | .ternary => choice
  | .logicalOr => conjunction
  | .logicalAnd => bitOr
  | .bitOr => bitXor
  | .bitXor => bitAnd
  | .bitAnd => equality
  | .equality => relation
  | .comparison => sum
  | .addition => product
  | .multiplication | .unary | .call => signed

theorem readIn_le_signed (p : Precedence) : readIn p ≤ signed := by cases p <;> decide

end Grammar.Level

open Grammar

namespace Connective

/-- The level of the expressions that a connective makes. -/
def level : Connective → Level
  | binary op => .ofBinary op
  | logical op => .ofLogical op
  | assignment => .assignment
  | ternary | elvis => .choice
  | call | member | index => .chain

/-- The level of the left side of a connective. -/
def leftLevel : Connective → Level
  | binary op => .ofBinary op
  | logical op => .ofLogical op
  | assignment => .choice
  | ternary | elvis => .disjunction
  | call | member | index => .chain

theorem level_le_leftLevel (c : Connective) : c.level ≤ c.leftLevel := by
  cases c <;> first | exact Level.le_refl _ | decide

theorem precedence_eq (c : Connective) : c.precedence = c.level.context := by
  cases c with
  | binary op => cases op <;> rfl
  | logical op => cases op <;> rfl
  | _ => rfl

theorem level_ne_signed (c : Connective) : c.level ≠ .signed := by
  cases c with
  | binary op => cases op <;> decide
  | logical op => cases op <;> decide
  | _ => decide

theorem level_le_readIn (c : Connective) (h : c.precedence ≠ .call) :
    c.level ≤ Level.readIn c.precedence := by
  cases c with
  | binary op => cases op <;> decide
  | logical op => cases op <;> decide
  | assignment | ternary | elvis => decide
  | call | member | index => exact absurd rfl h

/-- The context of calls is left out: only operands are read there. -/
theorem binds_iff (c : Connective) {p : Precedence} (h : p ≠ .call) :
    c.binds p = true ↔ Level.readIn p ≤ c.level := by
  have other := c.level_ne_signed
  rw [binds, associativity, precedence_eq]
  generalize c.level = m at other
  cases p <;> cases m <;> first | contradiction | decide

theorem binds_context_iff (c : Connective) (m : Level) :
    c.binds m.context = false ↔ c.leftLevel ≤ m := by
  cases c with
  | binary op => cases op <;> cases m <;> decide
  | logical op => cases op <;> cases m <;> decide
  | _ => cases m <;> decide

theorem not_binds_call (c : Connective) : c.binds .call = false :=
  (c.binds_context_iff .chain).2 c.leftLevel.le_chain

/-- A connective that binds makes an expression of the level read in the context. -/
theorem readIn_le_of_binds {c : Connective} {p : Precedence} (h : c.binds p = true) :
    Level.readIn p ≤ c.level := by
  refine (c.binds_iff ?_).1 h
  rintro rfl
  simp [not_binds_call] at h

end Connective

namespace Grammar.Level

@[simp] theorem readIn_binary (op : BinaryOp) :
    readIn (Connective.binary op).precedence = (ofBinary op).tighter := by
  cases op <;> rfl

@[simp] theorem readIn_logical (op : LogicalOp) :
    readIn (Connective.logical op).precedence = (ofLogical op).tighter := by
  cases op <;> rfl

/-- An expression of a level ends before a token: a connective there takes it whole. -/
def EndsBefore (m : Level) (t : Token) : Prop :=
  ∀ c, Connective.ofToken? t = some c → c.leftLevel ≤ m

theorem EndsBefore.mono {m n : Level} {t : Token} (h : m.EndsBefore t) (le : m ≤ n) :
    n.EndsBefore t :=
  fun c ahead => le_trans (h c ahead) le

/-- Before what is no connective every expression ends. -/
theorem endsBefore_of_none {m : Level} {t : Token} (h : Connective.ofToken? t = none) :
    m.EndsBefore t := by
  intro c ahead
  simp [h] at ahead

theorem endsBefore_chain (t : Token) : chain.EndsBefore t := fun c _ => c.leftLevel.le_chain

end Grammar.Level

namespace Connective

/-- The token that starts a connective. -/
def token : Connective → Token
  | binary op => .sign op.sign
  | logical op => .sign op.sign
  | assignment => .sign .equals
  | ternary => .sign .question
  | elvis => .sign .questionColon
  | call => .punctuation .leftParen
  | member => .punctuation .dot
  | index => .punctuation .leftBracket

@[simp] theorem ofToken?_token (c : Connective) : ofToken? c.token = some c := by
  cases c with
  | binary op => cases op <;> rfl
  | logical op => cases op <;> rfl
  | _ => rfl

/-- The left side of a connective ends before the connective. -/
theorem endsBefore_token (c : Connective) : c.leftLevel.EndsBefore c.token := by
  intro c' ahead
  obtain rfl : c = c' := by simpa using ahead
  exact Level.le_refl _

theorem eq_token_of_ofToken? {t : Token} {c : Connective} (h : ofToken? t = some c) :
    t = c.token := by
  cases t with
  | sign operator => cases operator <;> cases h <;> rfl
  | punctuation m => cases m <;> cases h <;> rfl
  | _ => cases h

end Connective

end ExprScript
