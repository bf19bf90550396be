import ExprScript.Proofs.Source.Indexed
import ExprScript.Proofs.Token.Scanning

/-!
# Numbers and words cut from the source

Numbers and words are read with a cursor over indexed characters: behind the first character, whose
byte offset is known, characters are taken as long as they belong to the token, and then the source
is cut at that offset and at the one of the next character. Both stand between characters of the
source, so the slice is there, and it is the text that was taken.
-/

namespace ExprScript

/-- The text from one byte of a source up to another, when they are in order, inside and between
characters. -/
def slice? (source : List Char) (start stop : Nat) : Option (List Char) :=
  if start ≤ stop then (dropBytes? start source).bind (takeBytes? (stop - start)) else none

theorem slice?_between (before text behind : List Char) :
    slice? (before ++ text ++ behind) (bytes before) (bytes (before ++ text)) = some text := by
  have between := Span.extract?_between before text behind
  simp only [Span.extract?, Position.byte_after_start] at between
  exact between

/-- The token of a number with a fraction or without. -/
def numeral (fraction : Bool) (digits : List Char) : Except LexCause Token :=
  let value :=
    if fraction then (Double.read? digits).map .float else (Integer.read? digits).map .integer
  value.elim (.error (.invalidNumber (String.ofList digits))) .ok

namespace Scan

theorem integer_eq (digits : List Char) :
    number.integer digits = ⟨numeral false digits, digits.length⟩ := by
  unfold number.integer numeral
  cases Integer.read? digits <;> rfl

/-- A point with a digit behind it is read with the digits in front. -/
theorem number_of_point {text more : List Char} {d : Char}
    (tail : text.dropWhile Char.isDigit = '.' :: d :: more) (digit : d.isDigit = true) :
    let digits := text.takeWhile Char.isDigit ++ '.' :: (d :: more).takeWhile Char.isDigit
    number text = ⟨numeral true digits, digits.length⟩ := by
  unfold number numeral
  rw [tail]
  simp only [digit, if_true]
  cases Double.read? _ <;> rfl

theorem number_of_no_point {text : List Char}
    (none : ¬ ∃ d more, text.dropWhile Char.isDigit = '.' :: d :: more ∧ d.isDigit = true) :
    number text = ⟨numeral false (text.takeWhile Char.isDigit),
      (text.takeWhile Char.isDigit).length⟩ := by
  unfold number
  split
  · rename_i d more tail
    split
    · rename_i digit
      exact absurd ⟨d, more, tail, digit⟩ none
    · exact integer_eq _
  · exact integer_eq _

end Scan

/-- What is read of a token behind its first character. -/
structure Sliced where
  taken : List Char
  slice : Option (List Char)
  /-- The token that the slice makes, or what is wrong with it. -/
  outcome : Option (Except LexCause Token)
  cursor : IndexedCursor

namespace IndexedCursor

/-- The source cut from a byte offset up to the cursor. -/
def cut (c : IndexedCursor) (start : Nat) (taken : List Char)
    (token : List Char → Except LexCause Token) : Sliced :=
  let slice := slice? c.source start c.byteOffset.1
  ⟨taken, slice, slice.map token, c.byteOffset.2⟩

/-- Whether a point is ahead and a digit behind it; where the cursor is then. -/
def seesFraction (c : IndexedCursor) : Bool × IndexedCursor :=
  if c.peek.1.any (·.2 = '.') then
    (c.peek.2.peekNext.1.any (·.2.isDigit), c.peek.2.peekNext.2)
  else (false, c.peek.2)

/-- Takes the rest of a number, and tells what was taken and whether it has a fraction. -/
def takeNumber (c : IndexedCursor) : List Char × Bool × IndexedCursor :=
  let (whole, c) := c.takeWhile Char.isDigit
  let (pointed, c) := c.seesFraction
  if pointed then
    let (point, c) := c.take
    let (fraction, c) := c.takeWhile Char.isDigit
    (whole ++ (takenBy point ++ fraction), true, c)
  else (whole, false, c)

/-- Reads a number whose first character was taken at a byte offset. -/
def number (c : IndexedCursor) (start : Nat) : Sliced :=
  let (taken, fraction, behind) := c.takeNumber
  behind.cut start taken (numeral fraction)

/-- Reads a word whose first character was taken at a byte offset. -/
def word (c : IndexedCursor) (start : Nat) : Sliced :=
  let (taken, behind) := c.takeWhile Scan.isNamePart
  behind.cut start taken fun name => .ok (Scan.word (String.ofList name))

variable {c : IndexedCursor} {before behind lexeme rest : List Char} {first : Char}

theorem Stands.cut (h : c.Stands (before ++ lexeme) rest) (taken : List Char)
    (token : List Char → Except LexCause Token) :
    c.cut (bytes before) taken token = ⟨taken, some lexeme, some (token lexeme), c.peek.2⟩ := by
  unfold IndexedCursor.cut
  rw [byteOffset_fst h.source h.items, h.source, slice?_between]
  rfl

theorem Stands.seesFraction (h : c.Stands before behind) :
    (c.seesFraction.1 = true ↔ ∃ d more, behind = '.' :: d :: more ∧ d.isDigit = true) ∧
      c.seesFraction.2.Stands before behind := by
  unfold IndexedCursor.seesFraction
  rw [peek_fst h.items, h.peek.peekNext_fst]
  split
  · rename_i point
    refine ⟨?_, h.peek⟩
    match behind with
    | [] => simp at point
    | [ch] => simp
    | ch :: d :: more =>
      obtain rfl : ch = '.' := by simpa using point
      simp
  · rename_i other
    refine ⟨⟨nofun, ?_⟩, h.peek⟩
    rintro ⟨d, more, rfl, -⟩
    simp at other

/-- What belongs to a number is the same as what is scanned of the text. -/
theorem Stands.takeNumber (h : c.Stands before behind) (digit : first.isDigit = true) :
    ∃ rest, behind = c.takeNumber.1 ++ rest ∧
      c.takeNumber.2.2.Stands (before ++ c.takeNumber.1) rest ∧
      Scan.number (first :: behind) =
        ⟨numeral c.takeNumber.2.1 (first :: c.takeNumber.1), (first :: c.takeNumber.1).length⟩ := by
  obtain ⟨whole, stands⟩ := h.takeWhile Char.isDigit
  obtain ⟨pointed, stands⟩ := stands.seesFraction
  have split : behind = _ := (List.takeWhile_append_dropWhile (p := Char.isDigit)).symm
  have leading : (first :: behind).takeWhile Char.isDigit = first :: behind.takeWhile Char.isDigit :=
    List.takeWhile_cons_of_pos digit
  have tail : (first :: behind).dropWhile Char.isDigit = behind.dropWhile Char.isDigit :=
    List.dropWhile_cons_of_pos digit
  unfold IndexedCursor.takeNumber
  dsimp only
  split
  · rename_i sees
    obtain ⟨d, more, same, digit'⟩ := pointed.1 sees
    rw [same] at stands tail
    obtain ⟨given, stands⟩ := stands.take_cons
    obtain ⟨fraction, stands⟩ := stands.takeWhile Char.isDigit
    have point (index : Nat) : takenBy (some (index, '.')) = ['.'] := rfl
    rw [whole, given, fraction, point, Scan.number_of_point tail digit', leading]
    refine ⟨(d :: more).dropWhile Char.isDigit, ?_, ?_, rfl⟩
    · rw [List.append_assoc, List.append_assoc, List.takeWhile_append_dropWhile]
      rwa [same] at split
    · simpa using stands
  · rename_i none
    rw [whole, Scan.number_of_no_point (by rwa [tail, ← pointed]), leading]
    exact ⟨_, split, stands, rfl⟩

/-- What was read of a text that stands behind `before`: the slice of the source is there and is the
text that was taken, it makes what is scanned of the text, and the cursor stands behind it. -/
structure Exact (cut : Sliced) (before : List Char) (first : Char) (behind : List Char) : Prop where
  slice : cut.slice = some (first :: cut.taken)
  outcome : cut.outcome.map (Except.map some) = some (scan (first :: behind)).outcome
  width : (first :: cut.taken).length = (scan (first :: behind)).width
  stands : ∃ rest, behind = cut.taken ++ rest ∧
    cut.cursor.Stands (before ++ first :: cut.taken) rest

theorem Stands.exact {taken : List Char} {token : List Char → Except LexCause Token}
    (h : c.Stands (before ++ [first] ++ taken) rest) (split : behind = taken ++ rest)
    (scans : scan (first :: behind) =
      ⟨(token (first :: taken)).map some, (first :: taken).length⟩) :
    Exact (c.cut (bytes before) taken token) before first behind := by
  rw [List.append_assoc] at h
  rw [h.cut]
  exact ⟨rfl, by rw [scans]; rfl, by rw [scans], rest, split, h.peek⟩

theorem Stands.number (h : c.Stands (before ++ [first]) behind) (digit : first.isDigit = true) :
    Exact (c.number (bytes before)) before first behind := by
  obtain ⟨rest, split, stands, number⟩ := h.takeNumber digit
  have scans := Scan.scan_of_isDigit behind digit
  rw [number] at scans
  exact stands.exact split scans

theorem Stands.word (h : c.Stands (before ++ [first]) behind)
    (letter : Scan.isNameStart first = true) :
    Exact (c.word (bytes before)) before first behind := by
  obtain ⟨taken, stands⟩ := h.takeWhile Scan.isNamePart
  have scans := Scan.scan_of_isNameStart behind letter
  rw [← taken] at stands scans
  have split : behind = (c.takeWhile Scan.isNamePart).1 ++ behind.dropWhile Scan.isNamePart := by
    rw [taken, List.takeWhile_append_dropWhile]
  exact stands.exact split scans

end IndexedCursor

/-! ### All that is asked of a cursor -/

/-- The steps that only look. -/
def CursorStep.looks : CursorStep → Bool
  | .peek | .peekNext | .byteOffset => true
  | .take | .takeIf _ | .takeWhile _ => false

/-- What is seen of a course: the answers, the characters taken and the position at the end. -/
def Course.seen (course : Course IndexedCursor) : List CursorAnswer × List Char × Position :=
  (course.answers, course.taken, course.cursor.position)

namespace IndexedCursor

variable {c d : IndexedCursor} {before behind : List Char}

theorem Stands.look {step : CursorStep} (h : c.Stands before behind) (looks : step.looks = true) :
    (c.perform step).taken = [] ∧ (c.perform step).cursor.Stands before behind := by
  cases step with
  | peek | byteOffset => exact ⟨rfl, h.peek⟩
  | peekNext => exact ⟨rfl, h⟩
  | take | takeIf | takeWhile => cases looks

/-- Two cursors at one place of one source are seen to do the same. -/
theorem Stands.seen_eq (h : c.Stands before behind) (h' : d.Stands before behind)
    (steps : List CursorStep) : (course perform c steps).seen = (course perform d steps).seen := by
  obtain ⟨taken, rest, split, same, stands, plain⟩ := h.steps steps
  obtain ⟨taken', rest', split', same', stands', plain'⟩ := h'.steps steps
  obtain ⟨answers, rfl, place⟩ := Course.mk.inj (plain.symm.trans plain')
  simp only [Course.seen, answers, same, same', stands.position, stands'.position]

/-- The cursor has measured the text `before` that was taken, with the text `behind` ahead. -/
structure Measured (c : IndexedCursor) (before behind : List Char) : Prop where
  position : c.position.Measures before
  byteOffset : c.byteOffset.1 = bytes before
  /-- A step that looks changes nothing that later steps could find. -/
  looking : ∀ step : CursorStep, step.looks →
    (c.perform step).taken = [] ∧ (c.perform step).cursor.position = c.position ∧
    ∀ steps, (course perform (c.perform step).cursor steps).seen = (course perform c steps).seen
  number : ∀ start first, c.take.1 = some (start, first) → first.isDigit →
    Exact (c.take.2.number start) before first behind.tail
  word : ∀ start first, c.take.1 = some (start, first) → Scan.isNameStart first →
    Exact (c.take.2.word start) before first behind.tail

theorem Stands.start {start : Nat} {first : Char} (h : c.Stands before behind)
    (given : c.take.1 = some (start, first)) :
    start = bytes before ∧ c.take.2.Stands (before ++ [first]) behind.tail := by
  cases behind with
  | nil => cases h.take_nil.1.symm.trans given
  | cons ch rest =>
    obtain ⟨given', stands⟩ := h.take_cons
    cases given'.symm.trans given
    exact ⟨rfl, stands⟩

theorem Stands.measured (h : c.Stands before behind) : c.Measured before behind where
  position := h.position ▸ Position.measures_after_start before
  byteOffset := byteOffset_fst h.source h.items
  looking step looks := by
    obtain ⟨none, stands⟩ := h.look looks
    exact ⟨none, stands.position.trans h.position.symm, stands.seen_eq h⟩
  number start first given digit := by
    obtain ⟨rfl, stands⟩ := h.start given
    exact stands.number digit
  word start first given letter := by
    obtain ⟨rfl, stands⟩ := h.start given
    exact stands.word letter

end IndexedCursor

/-- Whatever is asked of a cursor, the characters taken are the first of the source, the cursor has
measured them, and what is asked of the cursor on plain text is answered the same. -/
theorem cursor_measures (source : List Char) (steps : List CursorStep) :
    let found := course IndexedCursor.perform (.ofText source) steps
    let plain := course Cursor.perform (.ofText source) steps
    source = found.taken ++ plain.cursor.rest ∧
      found.cursor.Measured found.taken plain.cursor.rest ∧
      plain.answers = found.answers ∧ plain.taken = found.taken ∧
      plain.cursor.position = found.cursor.position ∧
      plain.cursor.byteOffset = found.cursor.byteOffset.1 := by
  obtain ⟨taken, rest, split, same, stands, plain⟩ :=
    (IndexedCursor.Stands.ofText source).steps steps
  have plain : course Cursor.perform (.ofText source) steps = _ := plain
  intro found
  rw [plain]
  have offset := IndexedCursor.byteOffset_fst stands.source stands.items
  subst same
  exact ⟨split, stands.measured, rfl, rfl, stands.position.symm,
    (Cursor.byteOffset_between _ rest).trans offset.symm⟩

end ExprScript
