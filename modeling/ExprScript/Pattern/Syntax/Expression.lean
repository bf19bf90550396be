import ExprScript.Pattern.Piece
import ExprScript.Pattern.Syntax.Bracket
import ExprScript.Text.Numeric

/-!
# The syntax of patterns

A pattern is a choice of sequences, whose items are characters, classes, escapes and groups, each of
which a sign behind it may repeat. There is no look at what is ahead and no reference back to what
a group matched.
-/

namespace ExprScript.Pattern

/-- What a parenthesis opens: a group, or a setting of flags that is closed already. -/
inductive Opening where
  | group (captures : Bool)
  | settings
deriving DecidableEq, Repr

/-- Whether a text may name a group: it starts with a letter or an underscore, and may go on with
numbers, points and brackets as well. -/
def isGroupName : List Char → Bool
  | [] => false
  | first :: rest =>
    (first == '_' || Text.isAlphabetic first) &&
    rest.all fun c =>
      c == '_' || c == '.' || c == '[' || c == ']' || Text.isAlphabetic c || Text.isNumeric c

def maxCount : Nat := 0xFFFFFFFF

namespace Reading

/-- Reads the name of a group up to the `>`; no two groups may have the same one. -/
def groupName : Reading Unit := do
  let name := (← rest).takeWhile (· ≠ '>')
  drop name.length
  expect '>'
  let names := (← get).names
  require (isGroupName name && !names.contains name)
  modify fun reader => { reader with names := name :: names }

/-- Reads what opens a group, the parenthesis being ahead, and sets the flags that it sets. -/
def opening : Reading Opening := do
  advance
  match ← rest with
  | '?' :: 'P' :: '<' :: _ =>
    drop 3
    groupName
    return .group true
  | '?' :: '<' :: _ =>
    drop 2
    groupName
    return .group true
  | '?' :: text =>
    match (← flags).read? true [] text with
    | some (flags, seen, sign :: behind) =>
      setFlags flags
      setRest behind
      if sign = ')' then
        require !seen.isEmpty
        return .settings
      else
        return .group false
    | _ => failure
  | _ => return .group true

/-- The number ahead; blanks around it do not count. -/
def count : Reading Nat := do
  setRest ((← rest).dropWhile Text.isBlank)
  let digits ← takeWhile Char.isDigit
  setRest ((← rest).dropWhile Text.isBlank)
  match (String.ofList digits).toNat? with
  | some value =>
    require (value ≤ maxCount)
    return value
  | none => failure

/-- Passes over the sign that makes a repetition reluctant. -/
def reluctance : Reading Unit := do
  if ← sees '?' then drop 1

/-- Reads the bounds of a repetition in braces: a count, a least count, or a range. -/
def countedBounds : Reading (Nat × Option Nat) := do
  advance
  let least ← count
  let most ← do
    if !(← sees ',') then pure (some least)
    else
      advance
      if ← sees '}' then pure none else some <$> count
  require (most.all (least ≤ ·))
  expect '}'
  skipBlanks
  reluctance
  return (least, most)

/-- Reads the sign of a repetition, which is ahead. -/
def bounds (sign : Char) : Reading (Nat × Option Nat) := do
  if sign = '{' then countedBounds
  else
    drop 1
    reluctance
    return match sign with
      | '?' => (0, some 1)
      | '*' => (0, none)
      | _ => (1, none)

/-- Whether a sign repeats what stands in front of it. -/
def isRepetition (sign : Char) : Bool :=
  sign == '?' || sign == '*' || sign == '+' || sign == '{'

/-- The characters that a point stands for: all but those that end a line, or all. -/
def point : Reading CharSet := do
  let flags ← flags
  require flags.unicode
  return if flags.dotAll then .all
    else if flags.anyLineEnding then .compl (.ranges [(0x0A, 0x0A), (0x0D, 0x0D)])
    else .compl (.ranges [(0x0A, 0x0A)])

/-- The condition that `^` or `$` stands for. -/
def anchor (ofText : Look) (ofLine : LineEnding → Look) : Reading Look := do
  let flags ← flags
  if !flags.multiLine then return ofText
  return ofLine (if flags.anyLineEnding then .any else .lineFeed)

/-- Reads a part that is neither a group nor a choice, and its sign is ahead. -/
def single (sign : Char) : Reading Piece := do
  match sign with
  | '[' =>
    let part ← bracket
    return { Piece.step part.set with depth := part.depth }
  | '\\' =>
    match ← escape with
    | .literal c => return .step (← withCase (.single c))
    | .set set => return .step set
    | .look look => return .look look
  | '.' =>
    drop 1
    return .step (← point)
  | '^' =>
    drop 1
    return .look (← anchor .textStart .lineStart)
  | '$' =>
    drop 1
    return .look (← anchor .textStop .lineStop)
  | c =>
    drop 1
    return .step (← withCase (.single c))

/-- Reads the inside of a group, or of the whole pattern, up to what cannot belong to it. `others` are
the sequences before the present one, `items` what was read of it in reverse. Every round reads one
sign at least, so `fuel` is more than the pattern has signs left. -/
def choices : (fuel : Nat) → (others : List Piece) → (items : List Item) → Reading Piece
  | 0, _, _ => failure
  | fuel + 1, others, items => do
    skipBlanks
    match (← rest).head? with
    | none | some ')' => return .choice (.concat items.reverse) others
    | some '|' =>
      drop 1
      choices fuel (.concat items.reverse :: others) []
    | some '(' =>
      let outer ← flags
      match ← opening with
      | .settings => choices fuel others (.settings :: items)
      | .group captures =>
        let inner ← choices fuel [] []
        expect ')'
        setFlags outer
        choices fuel others (.piece (inner.group captures) :: items)
    | some sign =>
      if isRepetition sign then
        match items with
        | .piece piece :: items =>
          let (least, most) ← bounds sign
          choices fuel others (.piece (piece.iterate least most) :: items)
        | _ => failure
      else
        let piece ← single sign
        choices fuel others (.piece piece :: items)

def whole : Reading Piece := do
  let piece ← choices ((← rest).length + 1) [] []
  require ((← rest).isEmpty && piece.isWithinLimits)
  return piece

end Reading

end ExprScript.Pattern

namespace ExprScript

/-- The pattern that a text writes; none when the text is no valid pattern. -/
def Pattern.parse? (text : List Char) : Option Pattern :=
  (Pattern.Reading.whole.run' ⟨text, .initial, []⟩).map (·.pattern)

/-- The text of the pattern that matches a text as a whole where the given one does. The pattern is
not checked by itself: it may close the group around it. -/
def Pattern.anchored (pattern : List Char) : List Char :=
  "^(?:".toList ++ pattern ++ ")$".toList

end ExprScript
