import ExprScript.Proofs.Source.Places
import ExprScript.Source.Cursor

/-!
# Cursors over indexed characters

Cursors once more, kept on an iterator. It gives the characters of a source with the byte offsets
that they start at, and the one ahead may have been found already. The byte of the position is found
by looking at the character ahead, the line and the column by the character taken. Whatever is asked
of such a cursor, it gives the answers of the cursor on plain text.
-/

namespace ExprScript

/-- The characters of a text that starts at a byte offset, with the offsets that they start at. -/
def indexed (offset : Nat) : List Char → List (Nat × Char)
  | [] => []
  | c :: text => (offset, c) :: indexed (offset + c.utf8Size) text

/-- Items that are given one after the other. The one ahead may have been found already, or that
there is none. -/
structure Lookahead (α : Type) where
  found : Option (Option α)
  rest : List α
  ended : found = some none → rest = []

namespace Lookahead

variable {α : Type}

/-- The items that are not given yet. -/
def items (l : Lookahead α) : List α :=
  match l.found with
  | some (some item) => item :: l.rest
  | _ => l.rest

def ofList (items : List α) : Lookahead α := ⟨none, items, nofun⟩

def peek (l : Lookahead α) : Option α × Lookahead α :=
  match l.found with
  | some item => (item, l)
  | none => (l.rest.head?, ⟨some l.rest.head?, l.rest.tail, by simp +contextual⟩)

def next (l : Lookahead α) : Option α × Lookahead α :=
  match l.found with
  | some item => (item, ofList l.rest)
  | none => (l.rest.head?, ofList l.rest.tail)

variable (l : Lookahead α)

@[simp] theorem peek_fst : l.peek.1 = l.items.head? := by
  obtain ⟨_ | _ | item, rest, ended⟩ := l
  · rfl
  · simp [peek, items, ended]
  · rfl

@[simp] theorem items_peek : l.peek.2.items = l.items := by
  obtain ⟨_ | found, rest, ended⟩ := l
  · cases rest <;> rfl
  · rfl

@[simp] theorem next_fst : l.next.1 = l.items.head? := by
  obtain ⟨_ | _ | item, rest, ended⟩ := l
  · rfl
  · simp [next, items, ended]
  · rfl

@[simp] theorem items_next : l.next.2.items = l.items.tail := by
  obtain ⟨_ | _ | item, rest, ended⟩ := l
  · rfl
  · cases ended rfl
    rfl
  · rfl

end Lookahead

/-- The position behind a character that ends at a byte offset. -/
def Position.lead (p : Position) (byte : Nat) (c : Char) : Position :=
  if c = '\n' then ⟨byte, p.line + 1, 1⟩ else ⟨byte, p.line, p.column + 1⟩

/-- A cursor that gives the characters of its source by an iterator. -/
structure IndexedCursor where
  source : List Char
  characters : Lookahead (Nat × Char)
  position : Position

/-- The characters that were taken, by what was given for them. -/
def takenBy (given : Option (Nat × Char)) : List Char := (given.map Prod.snd).toList

theorem takenBy_head (index : Nat) (text : List Char) :
    takenBy (text.head?.map (index, ·)) = text.take 1 := by
  cases text <;> rfl

namespace IndexedCursor

def ofText (text : List Char) : IndexedCursor := ⟨text, .ofList (indexed 0 text), .start⟩

def peek (c : IndexedCursor) : Option (Nat × Char) × IndexedCursor :=
  (c.characters.peek.1, { c with characters := c.characters.peek.2 })

/-- The byte offset of the next character, or that of the end. -/
def byteOffset (c : IndexedCursor) : Nat × IndexedCursor :=
  (c.peek.1.elim (bytes c.source) Prod.fst, c.peek.2)

/-- The cursor when the iterator has given the next character. -/
def passed (c : IndexedCursor) : IndexedCursor :=
  { c with characters := c.characters.next.2 }

/-- Takes the next character. The byte of the position is then the offset of the one behind it. -/
def take (c : IndexedCursor) : Option (Nat × Char) × IndexedCursor :=
  match c.characters.next.1 with
  | none => (none, c.passed)
  | some (index, taken) =>
    let (byte, behind) := c.passed.byteOffset
    (some (index, taken), { behind with position := c.position.lead byte taken })

/-- The character after the next one, which is found with another cursor. -/
def peekNext (c : IndexedCursor) : Option (Nat × Char) × IndexedCursor :=
  (c.take.2.peek.1, c)

/-- Takes the next character if it is `target`, and tells whether it was, and what was taken. -/
def takeIf (c : IndexedCursor) (target : Char) : Bool × List Char × IndexedCursor :=
  if c.peek.1.any (·.2 = target) then (true, takenBy c.peek.2.take.1, c.peek.2.take.2)
  else (false, [], c.peek.2)

theorem items_peek (c : IndexedCursor) : c.peek.2.characters.items = c.characters.items :=
  c.characters.items_peek

theorem items_take (c : IndexedCursor) : c.take.2.characters.items = c.characters.items.tail := by
  unfold take
  split
  · exact c.characters.items_next
  · exact (items_peek _).trans c.characters.items_next

theorem fewer_items (c : IndexedCursor) {given : Nat × Char} (ahead : c.peek.1 = some given) :
    c.peek.2.take.2.characters.items.length < c.characters.items.length := by
  have head : c.characters.items.head? = some given := c.characters.peek_fst.symm.trans ahead
  rw [items_take, items_peek]
  cases items : c.characters.items with
  | nil => simp [items] at head
  | cons => simp

/-- Takes characters as long as they satisfy a condition; which ones is told. -/
def takeWhile (condition : Char → Bool) (c : IndexedCursor) : List Char × IndexedCursor :=
  match _ahead : c.peek.1 with
  | none => ([], c.peek.2)
  | some (_, next) =>
    if condition next then
      let (more, behind) := takeWhile condition c.peek.2.take.2
      (takenBy c.peek.2.take.1 ++ more, behind)
    else ([], c.peek.2)
termination_by c.characters.items.length
decreasing_by exact c.fewer_items _ahead

variable {c : IndexedCursor} {before behind : List Char} {ch : Char}

theorem peek_fst (items : c.characters.items = indexed (bytes before) behind) :
    c.peek.1 = behind.head?.map (bytes before, ·) := by
  have ahead : c.peek.1 = c.characters.items.head? := c.characters.peek_fst
  rw [ahead, items]
  cases behind <;> rfl

theorem byteOffset_fst (source : c.source = before ++ behind)
    (items : c.characters.items = indexed (bytes before) behind) :
    c.byteOffset.1 = bytes before := by
  unfold byteOffset
  rw [peek_fst items, source]
  cases behind with
  | nil => simp
  | cons => rfl

/-- The cursor stands between two parts of its source: whatever was looked at, the characters behind
are still to be given, with their places in the whole. -/
structure Stands (c : IndexedCursor) (before behind : List Char) : Prop where
  source : c.source = before ++ behind
  position : c.position = .after .start before
  items : c.characters.items = indexed (bytes before) behind

namespace Stands

theorem ofText (text : List Char) : (IndexedCursor.ofText text).Stands [] text := ⟨rfl, rfl, rfl⟩

theorem peek (h : c.Stands before behind) : c.peek.2.Stands before behind :=
  ⟨h.source, h.position, (items_peek c).trans h.items⟩

theorem take_nil (h : c.Stands before []) : c.take.1 = none ∧ c.take.2.Stands before [] := by
  have given : c.characters.next.1 = none := by
    rw [Lookahead.next_fst, h.items]
    rfl
  have none : c.take = (none, c.passed) := by
    unfold take
    rw [given]
  rw [none]
  refine ⟨rfl, h.source, h.position, ?_⟩
  rw [passed, Lookahead.items_next, h.items]
  rfl

/-- The byte that is found by looking ahead is the one that the character taken leads to. -/
theorem take_cons (h : c.Stands before (ch :: behind)) :
    c.take.1 = some (bytes before, ch) ∧ c.take.2.Stands (before ++ [ch]) behind := by
  have given : c.characters.next.1 = some (bytes before, ch) := by
    rw [Lookahead.next_fst, h.items]
    rfl
  have source : c.passed.source = before ++ [ch] ++ behind := by simp [passed, h.source]
  have items : c.passed.characters.items = indexed (bytes (before ++ [ch])) behind := by
    rw [passed, Lookahead.items_next, h.items, bytes_append]
    rfl
  have byte : c.passed.byteOffset.1 = c.position.byte + ch.utf8Size := by
    rw [byteOffset_fst source items, bytes_append, h.position, Position.byte_after_start]
    rfl
  have moved : Position.after .start (before ++ [ch]) = c.position.advance ch := by
    rw [Position.after_append, h.position]
    rfl
  unfold take
  rw [given]
  refine ⟨rfl, source, ?_, (items_peek _).trans items⟩
  rw [moved]
  dsimp only
  rw [byte]
  rfl

theorem take (h : c.Stands before behind) :
    c.take.1 = behind.head?.map (bytes before, ·) ∧
      c.take.2.Stands (before ++ behind.take 1) (behind.drop 1) := by
  cases behind with
  | nil => simpa using h.take_nil
  | cons ch behind => exact h.take_cons

example : (IndexedCursor.ofText ['a', '\n', 'b']).take.2.take.2.position = ⟨2, 2, 1⟩ := by decide

theorem peekNext_fst (h : c.Stands before behind) :
    c.peekNext.1 = (behind.drop 1).head?.map (bytes (before ++ behind.take 1), ·) :=
  peek_fst h.take.2.items

theorem takeIf_eq (target : Char) (h : c.Stands before behind) :
    c.takeIf target =
      if behind.head? = some target then (true, [target], c.peek.2.take.2)
      else (false, [], c.peek.2) := by
  unfold takeIf
  rw [peek_fst h.items, h.peek.take.1]
  cases behind with
  | nil => rfl
  | cons ch behind =>
    by_cases same : ch = target
    · simp [same, takenBy]
    · simp [same]

theorem takeWhile (condition : Char → Bool) (h : c.Stands before behind) :
    (c.takeWhile condition).1 = behind.takeWhile condition ∧
      (c.takeWhile condition).2.Stands (before ++ behind.takeWhile condition)
        (behind.dropWhile condition) := by
  -- The recursion of the cursor is on what its iterator has left, which is the text behind.
  induction behind generalizing c before with
  | nil =>
    rw [IndexedCursor.takeWhile]
    split
    · simpa using h.peek
    · rename_i next ahead
      simp [peek_fst h.items] at ahead
  | cons ch behind ih =>
    obtain ⟨given, stands⟩ := h.peek.take
    obtain ⟨taken, behind⟩ := ih stands
    rw [IndexedCursor.takeWhile]
    split
    · rename_i none
      simp [peek_fst h.items] at none
    · rename_i next ahead
      obtain ⟨-, rfl⟩ : bytes before = _ ∧ ch = next := by simpa [peek_fst h.items] using ahead
      cases holds : condition ch with
      | true => simpa [holds, given, takenBy, taken] using behind
      | false => simpa [holds] using h.peek

end Stands

end IndexedCursor

/-! ### Steps -/

/-- What can be asked of a cursor. -/
inductive CursorStep where
  | peek
  | peekNext
  | take
  | takeIf (target : Char)
  | takeWhile (condition : Char → Bool)
  | byteOffset

/-- What a cursor answers. -/
inductive CursorAnswer where
  | character (given : Option (Nat × Char))
  | truth (b : Bool)
  | offset (byte : Nat)
  | silence

/-- What a step of a cursor does. -/
structure Moved (γ : Type) where
  answer : CursorAnswer
  taken : List Char
  cursor : γ

def Cursor.perform (c : Cursor) : CursorStep → Moved Cursor
  | .peek => ⟨.character c.peek, [], c⟩
  | .peekNext => ⟨.character c.peekNext, [], c⟩
  | .take => ⟨.character c.take.1, takenBy c.take.1, c.take.2⟩
  | .takeIf target =>
    let (found, behind) := c.takeIf target
    ⟨.truth found, if found then [target] else [], behind⟩
  | .takeWhile condition => ⟨.silence, c.rest.takeWhile condition, c.takeWhile condition⟩
  | .byteOffset => ⟨.offset c.byteOffset, [], c⟩

def IndexedCursor.perform (c : IndexedCursor) : CursorStep → Moved IndexedCursor
  | .peek => ⟨.character c.peek.1, [], c.peek.2⟩
  | .peekNext => ⟨.character c.peekNext.1, [], c.peekNext.2⟩
  | .take => ⟨.character c.take.1, takenBy c.take.1, c.take.2⟩
  | .takeIf target =>
    let (found, taken, behind) := c.takeIf target
    ⟨.truth found, taken, behind⟩
  | .takeWhile condition =>
    let (taken, behind) := c.takeWhile condition
    ⟨.silence, taken, behind⟩
  | .byteOffset => ⟨.offset c.byteOffset.1, [], c.byteOffset.2⟩

/-- What steps of a cursor do one after the other. -/
structure Course (γ : Type) where
  answers : List CursorAnswer
  taken : List Char
  cursor : γ

def course {γ : Type} (perform : γ → CursorStep → Moved γ) (c : γ) : List CursorStep → Course γ
  | [] => ⟨[], [], c⟩
  | step :: steps =>
    let first := perform c step
    let others := course perform first.cursor steps
    ⟨first.answer :: others.answers, first.taken ++ others.taken, others.cursor⟩

namespace Cursor

/-- The cursor on plain text between two parts of a source. -/
def between (before behind : List Char) : Cursor := ⟨.after .start before, behind⟩

variable (before behind : List Char)

theorem byteOffset_between : (between before behind).byteOffset = bytes before :=
  Position.byte_after_start before

theorem peek_between : (between before behind).peek = behind.head?.map (bytes before, ·) := by
  rw [peek, byteOffset_between]
  rfl

theorem advance_between (count : Nat) :
    (between before behind).advance count =
      between (before ++ behind.take count) (behind.drop count) := by
  simp only [advance, between, Position.after_append]

theorem takeIf_between (target : Char) :
    (between before behind).takeIf target =
      if behind.head? = some target then (true, between (before ++ behind.take 1) (behind.drop 1))
      else (false, between before behind) := by
  rw [← advance_between]
  rfl

theorem takeWhile_between (condition : Char → Bool) :
    (between before behind).takeWhile condition =
      between (before ++ behind.takeWhile condition) (behind.dropWhile condition) := by
  rw [takeWhile_eq]
  simp only [between, Position.after_append]

end Cursor

namespace IndexedCursor

variable {c : IndexedCursor} {before behind : List Char}

/-- A step of the one cursor is a step of the other. -/
theorem Stands.step (h : c.Stands before behind) (step : CursorStep) :
    ∃ taken rest, behind = taken ++ rest ∧ (c.perform step).taken = taken ∧
      (c.perform step).cursor.Stands (before ++ taken) rest ∧
      (Cursor.between before behind).perform step =
        ⟨(c.perform step).answer, taken, .between (before ++ taken) rest⟩ := by
  have none : before ++ [] = before := List.append_nil before
  cases step with
  | peek =>
    refine ⟨[], behind, rfl, rfl, none.symm ▸ h.peek, ?_⟩
    rw [Cursor.perform, IndexedCursor.perform, Cursor.peek_between, peek_fst h.items, none]
  | peekNext =>
    refine ⟨[], behind, rfl, rfl, none.symm ▸ h, ?_⟩
    rw [Cursor.perform, IndexedCursor.perform, Cursor.peekNext, Cursor.advance_between,
      Cursor.peek_between, h.peekNext_fst, none]
  | take =>
    obtain ⟨given, stands⟩ := h.take
    refine ⟨_, _, (List.take_append_drop 1 behind).symm, ?_, stands, ?_⟩
    · rw [IndexedCursor.perform, given, takenBy_head]
    · rw [Cursor.perform, IndexedCursor.perform, given, Cursor.take, Cursor.peek_between,
        Cursor.advance_between, takenBy_head]
  | takeIf target =>
    by_cases ahead : behind.head? = some target
    · obtain ⟨rest, rfl⟩ := List.head?_eq_some_iff.1 ahead
      have found : c.takeIf target = _ := (h.takeIf_eq target).trans (if_pos ahead)
      refine ⟨[target], rest, rfl, ?_, ?_, ?_⟩
      · rw [IndexedCursor.perform, found]
      · rw [IndexedCursor.perform, found]
        exact h.peek.take.2
      · rw [Cursor.perform, IndexedCursor.perform, found, Cursor.takeIf_between, if_pos ahead]
        rfl
    · have missed : c.takeIf target = _ := (h.takeIf_eq target).trans (if_neg ahead)
      refine ⟨[], behind, rfl, ?_, ?_, ?_⟩
      · rw [IndexedCursor.perform, missed]
      · rw [IndexedCursor.perform, missed, none]
        exact h.peek
      · rw [Cursor.perform, IndexedCursor.perform, missed, Cursor.takeIf_between, if_neg ahead, none]
        rfl
  | takeWhile condition =>
    obtain ⟨taken, stands⟩ := h.takeWhile condition
    refine ⟨_, _, List.takeWhile_append_dropWhile.symm, taken, stands, ?_⟩
    rw [Cursor.perform, Cursor.takeWhile_between]
    rfl
  | byteOffset =>
    refine ⟨[], behind, rfl, rfl, none.symm ▸ h.peek, ?_⟩
    rw [Cursor.perform, IndexedCursor.perform, Cursor.byteOffset_between,
      byteOffset_fst h.source h.items, none]

/-- What one cursor answers and takes in a course of steps, the other does. -/
theorem Stands.steps (h : c.Stands before behind) (steps : List CursorStep) :
    ∃ taken rest, behind = taken ++ rest ∧ (course perform c steps).taken = taken ∧
      (course perform c steps).cursor.Stands (before ++ taken) rest ∧
      course Cursor.perform (.between before behind) steps =
        ⟨(course perform c steps).answers, taken, .between (before ++ taken) rest⟩ := by
  induction steps generalizing c before behind with
  | nil =>
    have none : before ++ [] = before := List.append_nil before
    refine ⟨[], behind, rfl, rfl, none.symm ▸ h, ?_⟩
    rw [course, course, none]
  | cons step steps ih =>
    obtain ⟨taken, rest, rfl, same, stands, moved⟩ := h.step step
    obtain ⟨taken', rest', rfl, same', stands', moved'⟩ := ih stands
    refine ⟨taken ++ taken', rest', (List.append_assoc ..).symm, ?_, ?_, ?_⟩
    · rw [course, same, same']
    · rw [← List.append_assoc]
      exact stands'
    · rw [course, moved, course]
      dsimp only
      rw [moved', List.append_assoc]

end IndexedCursor

end ExprScript
