import ExprScript.Pattern.Syntax.Escape

/-!
# Bracketed classes

A class in brackets is a union of characters, ranges and classes, or several such unions joined from
left to right by `&&`, `--` and `~~`. A hyphen stands for itself at the start and before the end of
a class, and so does a closing bracket at the start.
-/

namespace ExprScript.Pattern

/-- The operations that join the operands of a class. -/
inductive SetOperation where
  | inter
  | diff
  | symmDiff
deriving DecidableEq, Repr

def SetOperation.apply : SetOperation → CharSet → CharSet → CharSet
  | inter => .inter
  | diff => .diff
  | symmDiff => .symmDiff

/-- The operation that two equal signs write. -/
def SetOperation.ofSigns? : List Char → Option SetOperation
  | '&' :: '&' :: _ => some .inter
  | '-' :: '-' :: _ => some .diff
  | '~' :: '~' :: _ => some .symmDiff
  | _ => none

/-- A part of a class, and how deep classes are nested in it. -/
structure ClassPart where
  set : CharSet
  depth : Nat

/-- The union of parts that stand side by side, which nests them when there are several. -/
def ClassPart.unions : List ClassPart → ClassPart
  | [] => ⟨.empty, 0⟩
  | [part] => part
  | parts => ⟨.unions (parts.map (·.set)), parts.foldr (max ·.depth) 0 + 1⟩

/-- The class `[:name:]` or `[:^name:]` whose opening bracket stands before the text: whether it is
negated, its ranges and the text behind it. -/
def bracketClass? : List Char → Option (Bool × Text.Ranges × List Char)
  | ':' :: text =>
    let negated := text.head? == some '^'
    let text := if negated then text.tail else text
    let name := text.takeWhile (· ≠ ':')
    match bracketClasses.lookup (String.ofList name), text.drop name.length with
    | some ranges, ':' :: ']' :: behind => some (negated, ranges, behind)
    | _, _ => none
  | _ => none

/-- The sign that decides whether the hyphen in front of it makes a range. In verbose mode blanks
do not count, nor does one number sign; when nothing else follows, the next character decides. -/
def signBehind? (verbose : Bool) (text : List Char) : Option Char :=
  let signs := text.dropWhile Text.isBlank
  let signs := if signs.head? = some '#' then signs.tail.dropWhile Text.isBlank else signs
  if verbose then signs.head? <|> text.head? else text.head?

namespace Reading

/-- A single member of a class, not yet part of a range. -/
def classMember : Reading Escape := do
  let c ← peek
  if c = '\\' then escape
  else
    drop 1
    return .literal c

/-- A character of a class. Without the flag `u` it must be of ASCII. -/
def classChar : Escape → Reading Char
  | .literal c => do
    require ((← flags).unicode || c.toNat < 0x80)
    return c
  | _ => failure

/-- A range or a single member of a class. -/
def classItem : Reading CharSet := do
  let member ← classMember
  skipBlanks
  let text ← rest
  let behind := signBehind? (← flags).verbose text.tail
  if text.head? = some '-' ∧ behind ≠ some ']' ∧ behind ≠ some '-' then
    advance
    let last ← classMember >>= classChar
    let first ← classChar member
    require (first ≤ last)
    return .ofRange first last
  else match member with
    | .set set => return set
    | member => return .single (← classChar member)

/-- Opens a class, whose bracket is ahead; tells whether it is negated. -/
def openClass : Reading Bool := do
  advance
  let negated ← sees '^'
  if negated then advance
  return negated

/-- The class around the parts between its brackets. -/
def closeClass (negated : Bool) (inner : ClassPart) : Reading ClassPart := do
  return ⟨← complementIf negated (← withCase inner.set), inner.depth + 1⟩

/-- The parts read since the last operation, joined to the operand on its left. -/
def joinOperands (left : Option (SetOperation × ClassPart)) (parts : List ClassPart) :
    Reading ClassPart := do
  let right := ClassPart.unions parts.reverse
  match left with
  | none => return right
  | some (operation, left) =>
    return ⟨operation.apply (← withCase left.set) (← withCase right.set),
      max left.depth right.depth + 1⟩

/-- Reads the inside of a class up to the closing bracket. `atStart` tells that only hyphens were
read so far, and `parts` holds what was read since the last operation in reverse. Every round reads
one sign at least, so `fuel` is more than the pattern has signs left. -/
def classInside : (fuel : Nat) → (atStart : Bool) → Option (SetOperation × ClassPart) →
    List ClassPart → Reading ClassPart
  | 0, _, _, _ => failure
  | fuel + 1, atStart, left, parts => do
    skipBlanks
    let text ← rest
    let c ← peek
    if atStart && (c == '-' || (c == ']' && parts.isEmpty)) then
      drop 1
      classInside fuel (c == '-') left (⟨.single c, 0⟩ :: parts)
    else if c = ']' then
      drop 1
      joinOperands left parts
    else if c = '[' then
      match bracketClass? text.tail with
      | some (negated, ranges, behind) =>
        setRest behind
        let set ← complementIf negated (← withCase (.ranges ranges))
        classInside fuel false left (⟨set, 0⟩ :: parts)
      | none =>
        let negated ← openClass
        let inner ← classInside fuel true none []
        let part ← closeClass negated inner
        classInside fuel false left (part :: parts)
    else match SetOperation.ofSigns? text with
      | some operation =>
        drop 2
        let operand ← joinOperands left parts
        classInside fuel false (some (operation, operand)) []
      | none =>
        let set ← classItem
        classInside fuel false left (⟨set, 0⟩ :: parts)

/-- Reads a class, its opening bracket being ahead. -/
def bracket : Reading ClassPart := do
  let fuel := (← rest).length + 1
  let negated ← openClass
  let inner ← classInside fuel true none []
  closeClass negated inner

end Reading

end ExprScript.Pattern
