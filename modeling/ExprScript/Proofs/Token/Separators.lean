import ExprScript.Proofs.Token.Reading

/-!
# Separators

The texts between tokens: white space and comments. A separator is passed over before the next token
is read, and what was passed over before a token is a separator.
-/

namespace ExprScript

namespace Scan

/-- What a comment up to the end of its line starts with. -/
inductive OpensLine : List Char → Prop where
  | hashes : OpensLine ['#', '#']
  | slashes : OpensLine ['/', '/']

/-- `Separator closed gap`: the text is white space and comments. A closed one goes with any text
behind it; one that is not may end in a comment without a line end. -/
inductive Separator : Bool → List Char → Prop where
  | nil {closed : Bool} : Separator closed []
  | blank {closed : Bool} {c : Char} {gap : List Char} (blank : Text.isBlank c = true)
      (later : Separator closed gap) : Separator closed (c :: gap)
  | line {closed : Bool} {opening line gap : List Char} (opens : OpensLine opening)
      (same : '\n' ∉ line) (later : Separator closed gap) :
      Separator closed (opening ++ line ++ '\n' :: gap)
  | lastLine {opening line : List Char} (opens : OpensLine opening) (same : '\n' ∉ line) :
      Separator false (opening ++ line)
  | block {closed : Bool} {inside gap : List Char} (first : ¬ ['*', '/'] <:+: inside)
      (later : Separator closed gap) :
      Separator closed ('/' :: '*' :: inside ++ '*' :: '/' :: gap)

namespace Separator

variable {closed : Bool} {gap gap' : List Char}

theorem append (h : Separator true gap) (h' : Separator closed gap') :
    Separator closed (gap ++ gap') := by
  generalize is : true = whole at h
  induction h with
  | nil => exact h'
  | blank blank _ ih => exact .blank blank (ih is)
  | line opens same _ ih =>
    rw [List.append_assoc, List.cons_append]
    exact .line opens same (ih is)
  | lastLine => simp at is
  | block first _ ih =>
    rw [List.append_assoc, List.cons_append, List.cons_append]
    exact .block first (ih is)

/-- A line end closes every separator. -/
theorem close (h : Separator closed gap) : Separator true (gap ++ ['\n']) := by
  induction h with
  | nil => exact .blank rfl .nil
  | blank blank _ ih => exact .blank blank ih
  | line opens same _ ih =>
    rw [List.append_assoc, List.cons_append]
    exact .line opens same ih
  | lastLine opens same => exact .line opens same .nil
  | block first _ ih =>
    rw [List.append_assoc, List.cons_append, List.cons_append]
    exact .block first ih

theorem ofBlanks (all : ∀ c ∈ gap, Text.isBlank c = true) : Separator closed gap := by
  induction gap with
  | nil => exact .nil
  | cons c gap ih =>
    obtain ⟨blank, later⟩ := List.forall_mem_cons.1 all
    exact .blank blank (ih later)

theorem weaken (h : Separator true gap) : Separator false gap := by
  generalize is : true = whole at h
  induction h with
  | nil => exact .nil
  | blank blank _ ih => exact .blank blank (ih is)
  | line opens same _ ih => exact .line opens same (ih is)
  | lastLine => simp at is
  | block first _ ih => exact .block first (ih is)

end Separator

/-! ### Comments -/

theorem takeWhile_line {line rest : List Char} (same : '\n' ∉ line)
    (ends : Stops (· ≠ '\n') rest) : (line ++ rest).takeWhile (· ≠ '\n') = line :=
  (ends.takeWhile_append fun _ inside => by simpa using ne_of_mem_of_not_mem inside same).1

theorem lineComment_of_line {line rest : List Char} (same : '\n' ∉ line) :
    lineComment (line ++ '\n' :: rest) = line.length + 1 := by
  have ends : Stops (· ≠ '\n') ('\n' :: rest) := by simp [Stops]
  simp only [lineComment, takeWhile_line same ends, List.drop_left]
  simp

theorem lineComment_of_last {line : List Char} (same : '\n' ∉ line) :
    lineComment line = line.length := by
  have taken : line.takeWhile (· ≠ '\n') = line := by simpa using takeWhile_line same .nil
  simp only [lineComment, taken, List.drop_length]
  simp

/-- A text is one line, or a line, a line end and more. -/
theorem line_cases (text : List Char) :
    '\n' ∉ text ∨ ∃ line rest, '\n' ∉ line ∧ text = line ++ '\n' :: rest := by
  by_cases ended : '\n' ∈ text
  · obtain ⟨line, rest, split, first⟩ := List.eq_append_cons_of_mem ended
    exact .inr ⟨line, rest, first, split⟩
  · exact .inl ended

/-- A block comment ends where it is first closed. -/
theorem blockComment?_of_closed {inside : List Char} (first : ¬ ['*', '/'] <:+: inside)
    (rest : List Char) :
    blockComment? (inside ++ '*' :: '/' :: rest) = some (inside.length + 2) := by
  induction inside with
  | nil => rfl
  | cons c inside ih =>
    have later : ¬ ['*', '/'] <:+: inside := fun found => first (List.infix_cons found)
    rw [List.cons_append, blockComment?, ih later]
    · simp
    · rintro more rfl behind
      cases inside with
      | nil => simp at behind
      | cons next inside =>
        obtain ⟨rfl, -⟩ := List.cons.inj behind
        exact first (List.infix_append [] ['*', '/'] inside)

theorem closed_of_blockComment? {text : List Char} {width : Nat}
    (h : blockComment? text = some width) : ∃ inside rest, text = inside ++ '*' :: '/' :: rest ∧
      width = inside.length + 2 ∧ ¬ ['*', '/'] <:+: inside := by
  induction text using blockComment?.induct generalizing width with
  | case1 => simp [blockComment?] at h
  | case2 rest =>
    obtain rfl : 2 = width := by simpa [blockComment?] using h
    exact ⟨[], rest, rfl, rfl, by simp⟩
  | case3 c rest other ih =>
    rw [blockComment?] at h
    · obtain ⟨width', found, rfl⟩ := Option.map_eq_some_iff.1 h
      obtain ⟨inside, behind, rfl, rfl, first⟩ := ih found
      refine ⟨c :: inside, behind, rfl, by simp, fun found => ?_⟩
      rcases List.infix_cons_iff.1 found with ⟨more, here⟩ | later
      · obtain ⟨rfl, rfl⟩ := List.cons.inj here
        exact other (more ++ '*' :: '/' :: behind) rfl rfl
      · exact first later
    · exact other

theorem scan_line {opening : List Char} (opens : OpensLine opening) (text : List Char) :
    scan (opening ++ text) = ⟨.ok none, opening.length + lineComment text⟩ := by
  cases opens <;> rfl

theorem scan_block {text : List Char} {width : Nat} (h : blockComment? text = some width) :
    scan ('/' :: '*' :: text) = ⟨.ok none, 2 + width⟩ := by
  simp [scan, h]

/-- A comment in front of a text. -/
structure Skips (text : List Char) (width : Nat) (closed : Bool) (comment rest : List Char) :
    Prop where
  split : text = comment ++ rest
  length : comment.length = width
  separator : Separator closed comment
  ends : closed = true ∨ rest = []

theorem skips_line {opening : List Char} (opens : OpensLine opening) (text : List Char) :
    ∃ closed comment rest,
      Skips (opening ++ text) (opening.length + lineComment text) closed comment rest := by
  rcases line_cases text with same | ⟨line, rest, same, rfl⟩
  · refine ⟨false, opening ++ text, [], by simp, ?_, .lastLine opens same, .inr rfl⟩
    rw [lineComment_of_last same, List.length_append]
  · refine ⟨true, opening ++ line ++ ['\n'], rest, by simp, ?_, .line opens same .nil, .inl rfl⟩
    rw [lineComment_of_line same]
    simp

theorem skips_block {text : List Char} {width : Nat} (h : blockComment? text = some width) :
    ∃ comment rest, Skips ('/' :: '*' :: text) (2 + width) true comment rest := by
  obtain ⟨inside, rest, rfl, rfl, first⟩ := closed_of_blockComment? h
  exact ⟨_, rest, by simp, by simp; omega, .block first .nil, .inl rfl⟩

theorem longest_ne_none (next : Char) (long short : Sign) (rest : List Char) :
    (longest next long short rest).outcome ≠ .ok none := by
  unfold longest
  split <;> simp [Scanned.token]

theorem map_ne_none {α : Type} (s : Scanned α) (f : α → Token) :
    (s.map fun x => some (f x)).outcome ≠ .ok none := by
  obtain ⟨outcome, width⟩ := s
  cases outcome <;> simp [Scanned.map, Except.map]

/-- What is scanned without a token is a comment. -/
theorem skips_of_scan {text : List Char} (h : (scan text).outcome = .ok none) :
    ∃ closed comment rest, Skips text (scan text).width closed comment rest := by
  cases text with
  | nil => simp [scan, Scanned.token] at h
  | cons c rest =>
    simp only [scan] at h ⊢
    split at h
    case h_17 =>
      split at h
      · exact skips_line .hashes _
      · simp [Scanned.fault] at h
    case h_18 =>
      split at h
      · exact skips_line .slashes _
      · split at h
        · rename_i found
          obtain ⟨comment, rest, skips⟩ := skips_block found
          refine ⟨true, comment, rest, ?_⟩
          simpa [found] using skips
        · simp [Scanned.fault] at h
      · simp [Scanned.token] at h
    case h_24 => split at h <;> simp [Scanned.token] at h
    case h_25 => split at h <;> simp [Scanned.token] at h
    case h_26 | h_27 => exact absurd h (map_ne_none _ _)
    case h_28 =>
      split at h
      · exact absurd h (map_ne_none _ id)
      · split at h <;> simp [Scanned.token, Scanned.fault] at h
    all_goals first
      | exact absurd h (longest_ne_none _ _ _ _)
      | simp [Scanned.token] at h

end Scan

namespace Cursor

open Scan

variable {p : Position} {text rest : List Char}

theorem skipBlanks_rest (c : Cursor) : c.skipBlanks.rest = c.rest.dropWhile Text.isBlank := by
  rw [skipBlanks, takeWhile_eq]

theorem skipBlanks_blank {c : Char} (blank : Text.isBlank c = true) (p : Position)
    (rest : List Char) : skipBlanks ⟨p, c :: rest⟩ = skipBlanks ⟨p.advance c, rest⟩ := by
  simp [skipBlanks, takeWhile, advance, blank]

theorem skipBlanks_of_stops (p : Position) (ends : Stops Text.isBlank text) :
    skipBlanks ⟨p, text⟩ = ⟨p, text⟩ := by
  have none : text.takeWhile Text.isBlank = [] := by
    have all : ∀ c ∈ ([] : List Char), Text.isBlank c = true := by simp
    simpa using (ends.takeWhile_append all).1
  simp [skipBlanks, takeWhile, advance, none]

/-- The next token is made of what is scanned behind white space. -/
theorem nextToken_eq_scan (c : Cursor) :
    let behind := c.skipBlanks.advance (scan c.skipBlanks.rest).width
    c.nextToken = match (scan c.skipBlanks.rest).outcome with
      | .ok (some t) => (.ok ⟨t, ⟨c.skipBlanks.position, behind.position⟩⟩, behind)
      | .error cause => (.error ⟨c.skipBlanks.position, cause⟩, behind)
      | .ok none => behind.nextToken := by
  rw [nextToken]
  split <;> simp_all

theorem nextToken_congr {c c' : Cursor} (h : c.skipBlanks = c'.skipBlanks) :
    c.nextToken = c'.nextToken := by
  rw [nextToken_eq_scan c, nextToken_eq_scan c', h]

theorem nextToken_of_token {t : Token} {width : Nat} (p : Position) (ends : Stops Text.isBlank text)
    (h : scan text = .token t width) :
    nextToken ⟨p, text⟩ =
      (.ok ⟨t, ⟨p, (advance ⟨p, text⟩ width).position⟩⟩, advance ⟨p, text⟩ width) := by
  simp only [nextToken_eq_scan, skipBlanks_of_stops p ends, h, Scanned.token]

theorem nextToken_of_comment {comment : List Char} (p : Position)
    (ends : Stops Text.isBlank (comment ++ rest))
    (h : scan (comment ++ rest) = ⟨.ok none, comment.length⟩) :
    nextToken ⟨p, comment ++ rest⟩ = nextToken ⟨p.after comment, rest⟩ := by
  rw [nextToken_eq_scan]
  simp only [skipBlanks_of_stops p ends, h, advance_append]

theorem nextToken_of_fault {cause : LexCause} (p : Position) (ends : Stops Text.isBlank text)
    (h : (scan text).outcome = .error cause) : (nextToken ⟨p, text⟩).1 = .error ⟨p, cause⟩ := by
  simp only [nextToken_eq_scan, skipBlanks_of_stops p ends, h]

theorem stops_of_opensLine {opening : List Char} (opens : OpensLine opening) (rest : List Char) :
    Stops Text.isBlank (opening ++ rest) := by
  cases opens <;> simp [Stops, Text.isBlank]

/-- A separator is passed over. -/
theorem nextToken_separator {closed : Bool} {gap : List Char} (p : Position)
    (h : Separator closed gap) (ends : closed = true ∨ rest = []) :
    nextToken ⟨p, gap ++ rest⟩ = nextToken ⟨p.after gap, rest⟩ := by
  induction h generalizing p with
  | nil => rfl
  | @blank closed c gap blank _ ih =>
    rw [List.cons_append, nextToken_congr (skipBlanks_blank blank p (gap ++ rest)), ih _ ends]
    rfl
  | @line closed opening line gap opens same _ ih =>
    have scanned : scan (opening ++ line ++ ['\n'] ++ (gap ++ rest)) =
        ⟨.ok none, (opening ++ line ++ ['\n']).length⟩ := by
      rw [List.append_assoc, List.append_assoc, scan_line opens, List.append_assoc,
        List.singleton_append, lineComment_of_line same]
      simp
    have ahead : Stops Text.isBlank (opening ++ line ++ ['\n'] ++ (gap ++ rest)) := by
      simpa using stops_of_opensLine opens _
    have passed := nextToken_of_comment p ahead scanned
    rw [ih _ ends] at passed
    simpa [Position.after_append] using passed
  | @lastLine opening line opens same =>
    obtain rfl : rest = [] := by simpa using ends
    have scanned : scan (opening ++ line ++ []) = ⟨.ok none, (opening ++ line).length⟩ := by
      rw [List.append_nil, scan_line opens, lineComment_of_last same, List.length_append]
    have ahead : Stops Text.isBlank (opening ++ line ++ []) := by
      simpa using stops_of_opensLine opens line
    exact nextToken_of_comment p ahead scanned
  | @block closed inside gap first _ ih =>
    have scanned : scan ('/' :: '*' :: inside ++ ['*', '/'] ++ (gap ++ rest)) =
        ⟨.ok none, ('/' :: '*' :: inside ++ ['*', '/']).length⟩ := by
      have closing := scan_block (blockComment?_of_closed first (gap ++ rest))
      have length : ('/' :: '*' :: inside ++ ['*', '/']).length = 2 + (inside.length + 2) := by
        simp
        omega
      rw [length]
      simpa using closing
    have ahead : Stops Text.isBlank ('/' :: '*' :: inside ++ ['*', '/'] ++ (gap ++ rest)) := by
      simp [Stops, Text.isBlank]
    have passed := nextToken_of_comment p ahead scanned
    rw [ih _ ends] at passed
    simpa [Position.after_append] using passed

/-- What stands in front of a token or an error is a separator. -/
theorem separator_in_front (c : Cursor) : ∃ closed gap text, c.rest = gap ++ text ∧
    Separator closed gap ∧ (closed = true ∨ text = []) ∧ Stops Text.isBlank text ∧
    (scan text).outcome ≠ .ok none := by
  have blanks (c : Cursor) : c.rest = c.rest.takeWhile Text.isBlank ++ c.skipBlanks.rest := by
    rw [skipBlanks_rest, List.takeWhile_append_dropWhile]
  have separator (c : Cursor) : Separator true (c.rest.takeWhile Text.isBlank) :=
    .ofBlanks (List.all_eq_true.1 List.all_takeWhile)
  have ahead (c : Cursor) : Stops Text.isBlank c.skipBlanks.rest := by
    rw [skipBlanks_rest]
    exact stops_dropWhile Text.isBlank c.rest
  induction c using nextToken.induct with
  | case1 c before scanned token outcome =>
    exact ⟨true, _, _, blanks c, separator c, .inl rfl, ahead c, fun none => by
      simp [scanned, before, none] at outcome⟩
  | case2 c before scanned cause outcome =>
    exact ⟨true, _, _, blanks c, separator c, .inl rfl, ahead c, fun none => by
      simp [scanned, before, none] at outcome⟩
  | case3 c before scanned behind outcome ih =>
    obtain ⟨shut, comment, rest, split, length, skipped, ends⟩ := skips_of_scan outcome
    have left : behind.rest = rest := by
      change (before.rest).drop (scan before.rest).width = rest
      rw [← length, split, List.drop_left]
    obtain ⟨closed, gap, text, same, later, last, stops, found⟩ := ih
    have whole : c.rest = c.rest.takeWhile Text.isBlank ++ (comment ++ gap) ++ text := by
      rw [List.append_assoc, List.append_assoc, ← same, left, ← split]
      exact blanks c
    rcases ends with rfl | rfl
    · have front := (separator c).append (skipped.append later)
      exact ⟨closed, _, text, whole, front, last, stops, found⟩
    · obtain ⟨rfl, rfl⟩ := List.append_eq_nil_iff.1 (same.symm.trans left)
      refine ⟨shut, _, [], whole, (separator c).append ?_, .inr rfl, stops, found⟩
      rwa [List.append_nil]

end Cursor

end ExprScript
