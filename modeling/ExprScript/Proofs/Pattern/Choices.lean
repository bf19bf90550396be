import Mathlib.Data.List.TakeWhile
import ExprScript.Pattern.Syntax.Expression
import ExprScript.Proofs.Pattern.Classes

/-!
# Expressions with a closing parenthesis behind

Choices, sequences, groups and repetitions are read the same with a closing parenthesis behind: they
stop in front of it, unless a construct is cut off or a comment is open.
-/

namespace ExprScript.Pattern

/-- No text without the parenthesis starts across it. -/
theorem prefix_append_closing {front : List Char} (apart : ')' ∉ front) (text tail : List Char) :
    front <+: text ++ ')' :: tail ↔ front <+: text := by
  refine ⟨fun starts => ?_, fun starts => starts.trans (List.prefix_append _ _)⟩
  rcases List.prefix_or_prefix_of_prefix starts (List.prefix_append text (')' :: tail)) with
    inside | ⟨more, rfl⟩
  · exact inside
  · cases more with
    | nil => simp
    | cons c more =>
      obtain ⟨rest, split⟩ := starts
      simp only [List.append_assoc, List.append_cancel_left_eq, List.cons_append,
        List.cons.injEq] at split
      exact absurd (by simp [split.1]) apart

/-- Letters of flags are read to their end, or the parenthesis ends them. -/
theorem Flags.read?_append (flags : Flags) (on : Bool) (seen text : List Char) :
    (∃ flags' seen' sign behind, flags.read? on seen text = some (flags', seen', sign :: behind) ∧
        behind <:+ text ∧ ∀ tail, flags.read? on seen (text ++ ')' :: tail) =
          some (flags', seen', sign :: (behind ++ ')' :: tail))) ∨
      flags.read? on seen text = none ∧ ∀ tail flags' seen' rest,
        flags.read? on seen (text ++ ')' :: tail) = some (flags', seen', rest) →
          rest = ')' :: tail := by
  induction text generalizing flags on seen with
  | nil =>
    refine .inr ⟨rfl, fun tail flags' seen' rest read => ?_⟩
    rw [List.nil_append, read?] at read
    split at read
    · split at read
      · cases read
      · cases read
        rfl
    · rename_i other
      simp at other
  | cons c text ih =>
    simp only [List.cons_append, read?]
    split
    · split
      · exact .inr ⟨rfl, nofun⟩
      · exact .inl ⟨flags, seen, c, text, rfl, List.suffix_cons c text, fun _ => rfl⟩
    · split
      · exact .inr ⟨rfl, nofun⟩
      · split
        · rcases ih flags false (c :: seen) with ⟨f, s, sign, behind, alone, suffix, closed⟩ | fails
          · exact .inl ⟨f, s, sign, behind, alone, suffix.trans (List.suffix_cons c text), closed⟩
          · exact .inr fails
        · cases flags.set? c on with
          | none => exact .inr ⟨rfl, nofun⟩
          | some changed =>
            rcases ih changed on (c :: seen) with ⟨f, s, sign, behind, alone, suffix, closed⟩ | fails
            · exact .inl ⟨f, s, sign, behind, alone, suffix.trans (List.suffix_cons c text), closed⟩
            · exact .inr fails

namespace Reading

variable {r r' : Reader}

/-! ### What opens a group -/

def register (name : List Char) : Reading Unit := do
  let names := (← get).names
  require (isGroupName name && !names.contains name)
  modify fun reader => { reader with names := name :: names }

theorem steady_register (name : List Char) : Steady (register name) := by
  intro r
  cases fits : isGroupName name && !r.names.contains name with
  | true =>
    have registers (r' : Reader) (same : r'.names = r.names) :
        register name r' = some ((), { r' with names := name :: r'.names }) := by
      change (require (isGroupName name && !r'.names.contains name) >>= fun _ => _) r' = _
      rw [same, fits]
      rfl
    exact .along _ _ (registers r rfl) (List.suffix_refl _) fun tail => registers _ rfl
  | false =>
    have fails (r' : Reader) (same : r'.names = r.names) : register name r' = none := by
      change (require (isGroupName name && !r'.names.contains name) >>= fun _ => _) r' = _
      rw [same, fits]
      rfl
    refine .past (fun tail a r' read => ?_) fun a r' read => ?_
    · rw [fails (r.extend _) rfl] at read
      cases read
    · rw [fails r rfl] at read
      cases read

theorem groupName_of_mem {name behind : List Char} (split : r.rest = name ++ '>' :: behind)
    (apart : '>' ∉ name) :
    groupName r = (expect '>' >>= fun _ => register name) { r with rest := '>' :: behind } := by
  change (expect '>' >>= fun _ => register (r.rest.takeWhile (· ≠ '>')))
    { r with rest := r.rest.drop (r.rest.takeWhile (· ≠ '>')).length } = _
  rw [split, takeWhile_ne_append apart, List.drop_left]

theorem groupName_of_not_mem (apart : '>' ∉ r.rest) : groupName r = none := by
  have all : r.rest.takeWhile (· ≠ '>') = r.rest := by
    refine List.takeWhile_eq_self_iff.2 fun c listed => ?_
    rw [decide_eq_true_eq]
    rintro rfl
    exact apart listed
  refine Option.eq_none_iff_forall_ne_some.2 fun ⟨a, r'⟩ read => ?_
  obtain ⟨_, _, ⟨⟩, read⟩ := bind_eq_some.1 read
  obtain ⟨_, _, ⟨⟩, read⟩ := bind_eq_some.1 read
  obtain ⟨_, _, found, -⟩ := bind_eq_some.1 read
  obtain ⟨tail, ahead, -⟩ := expect_eq_some.1 found
  simp only [all, List.drop_length] at ahead
  cases ahead

theorem steady_groupName : Steady groupName := by
  intro r
  have steady (name : List Char) : Steady (expect '>' >>= fun _ => register name) :=
    (steady_expect '>').bind fun _ => steady_register name
  by_cases inside : '>' ∈ r.rest
  · obtain ⟨name, behind, split, apart⟩ := List.eq_append_cons_of_mem inside
    refine Parallel.of_eq (steady name { r with rest := '>' :: behind }) ?_
      (groupName_of_mem split apart) fun tail => groupName_of_mem ?_ apart
    · exact ⟨name, split.symm⟩
    · simp [split]
  · refine .past (fun tail a r' read => ?_) fun a r' read => ?_
    · by_cases beyond : '>' ∈ tail
      · obtain ⟨name, behind, rfl, apart⟩ := List.eq_append_cons_of_mem beyond
        have apart' : '>' ∉ r.rest ++ ')' :: name := by simp [inside, apart]
        have split : (r.extend (')' :: (name ++ '>' :: behind))).rest =
            (r.rest ++ ')' :: name) ++ '>' :: behind := by simp
        rw [groupName_of_mem split apart'] at read
        exact ((steady _).shrinks _ _ _ read).trans ⟨name, rfl⟩
      · rw [groupName_of_not_mem (by simp [inside, beyond])] at read
        cases read
    · rw [groupName_of_not_mem inside] at read
      cases read

/-- The group that opens with letters of flags, or the setting of flags. -/
def flagGroup (text : List Char) : Reading Opening := do
  match (← flags).read? true [] text with
  | some (flags, seen, sign :: behind) =>
    setFlags flags
    setRest behind
    if sign = ')' then
      require !seen.isEmpty
      return .settings
    else
      return .group false
  | _ => failure

/-- What a parenthesis opens in front of a text. -/
def openingAt (text : List Char) : Reading Opening :=
  if ['?', 'P', '<'] <+: text then do
    drop 3
    groupName
    return .group true
  else if ['?', '<'] <+: text then do
    drop 2
    groupName
    return .group true
  else if ['?'] <+: text then flagGroup text.tail
  else return .group true

/-- The same by the signs ahead. -/
def openingSigns : List Char → Reading Opening
  | '?' :: 'P' :: '<' :: _ => do
    drop 3
    groupName
    return .group true
  | '?' :: '<' :: _ => do
    drop 2
    groupName
    return .group true
  | '?' :: text => flagGroup text
  | _ => return .group true

theorem openingSigns_eq (text : List Char) : openingSigns text = openingAt text := by
  unfold openingAt
  split
  · rename_i starts
    obtain ⟨rest, rfl⟩ := starts
    rfl
  rename_i apart
  split
  · rename_i starts
    obtain ⟨rest, rfl⟩ := starts
    rfl
  rename_i apart'
  split
  · rename_i starts
    obtain ⟨rest, rfl⟩ := starts
    exact openingSigns.eq_3 rest (fun more same => apart ⟨more, by simp [same]⟩)
      fun more same => apart' ⟨more, by simp [same]⟩
  · rename_i apart''
    exact openingSigns.eq_4 text (fun _ same => apart ⟨_, same.symm⟩)
      (fun _ same => apart' ⟨_, same.symm⟩) fun _ same => apart'' ⟨_, same.symm⟩

theorem opening_eq : opening = advance >>= fun _ => rest >>= openingAt := by
  rw [← show openingSigns = openingAt from funext openingSigns_eq]
  rfl

/-- What the sign behind letters of flags opens. -/
def flagSign (seen : List Char) (sign : Char) : Reading Opening := do
  if sign = ')' then
    require !seen.isEmpty
    return .settings
  else return .group false

theorem steady_flagSign (seen : List Char) (sign : Char) : Steady (flagSign seen sign) := by
  unfold flagSign
  split
  · exact (steady_require _).bind fun _ => steady_pure _
  · exact steady_pure _

theorem flagGroup_of_some {flags : Flags} {seen text behind : List Char} {sign : Char}
    (read : r.flags.read? true [] text = some (flags, seen, sign :: behind)) :
    flagGroup text r = flagSign seen sign { r with rest := behind, flags } := by
  change (match r.flags.read? true [] text with
    | some (flags, seen, sign :: behind) => do
      setFlags flags
      setRest behind
      flagSign seen sign
    | _ => failure) r = _
  rw [read]
  rfl

theorem flagGroup_of_none {text : List Char} (read : r.flags.read? true [] text = none) :
    flagGroup text r = none := by
  change (match r.flags.read? true [] text with
    | some (flags, seen, sign :: behind) => do
      setFlags flags
      setRest behind
      flagSign seen sign
    | _ => failure) r = _
  rw [read]
  rfl

theorem parallel_flagGroup {text : List Char} (suffix : text <:+ r.rest) :
    Parallel passed (flagGroup text) (fun tail => flagGroup (text ++ ')' :: tail)) r := by
  rcases r.flags.read?_append true [] text with
    ⟨flags, seen, sign, behind, alone, inside, closed⟩ | ⟨alone, closed⟩
  · exact Parallel.of_eq (steady_flagSign seen sign { r with rest := behind, flags })
      (inside.trans suffix) (flagGroup_of_some alone) fun tail => flagGroup_of_some (closed tail)
  · refine .past (fun tail a r' read => ?_) fun a r' read => ?_
    · cases found : r.flags.read? true [] (text ++ ')' :: tail) with
      | none =>
        rw [flagGroup_of_none (r := r.extend (')' :: tail)) found] at read
        cases read
      | some result =>
        obtain ⟨flags, seen, rest⟩ := result
        obtain rfl := closed tail flags seen rest found
        rw [flagGroup_of_some (r := r.extend (')' :: tail)) found] at read
        exact (steady_flagSign seen ')').shrinks _ _ _ read
    · rw [flagGroup_of_none alone] at read
      cases read

theorem parallel_openingAt (r : Reader) :
    Parallel passed (openingAt r.rest) (fun tail => openingAt (r.rest ++ ')' :: tail)) r := by
  have named : Steady (groupName >>= fun _ => pure (Opening.group true)) :=
    steady_groupName.bind fun _ => steady_pure _
  unfold openingAt
  simp only [prefix_append_closing (show ')' ∉ ['?', 'P', '<'] by decide),
    prefix_append_closing (show ')' ∉ ['?', '<'] by decide),
    prefix_append_closing (show ')' ∉ ['?'] by decide)]
  split
  · rename_i starts
    exact (whenClosed_drop starts.length_le).bind (fun _ r' _ => named r') fun _ => named.shrinks
  split
  · rename_i starts
    exact (whenClosed_drop starts.length_le).bind (fun _ r' _ => named r') fun _ => named.shrinks
  split
  · rename_i starts
    obtain ⟨text, split⟩ := starts
    have tail (tail : List Char) : (r.rest ++ ')' :: tail).tail = r.rest.tail ++ ')' :: tail := by
      rw [← split]
      rfl
    simp only [tail]
    exact parallel_flagGroup (List.tail_suffix _)
  · exact steady_pure _ r

theorem eager_opening : Eager opening := by
  rw [opening_eq]
  refine eager_advance.bind fun _ r => ?_
  exact Parallel.of_eq (parallel_openingAt r) (List.suffix_refl _) rfl fun _ => rfl

/-- Passes over blanks, but not over comments. -/
def dropBlanks : Reading Unit := do
  setRest ((← rest).dropWhile Text.isBlank)

theorem steady_dropBlanks : Steady dropBlanks := by
  refine fun r => .along () { r with rest := r.rest.dropWhile Text.isBlank } rfl
    (List.dropWhile_suffix _) fun tail => ?_
  change some ((), { r with rest := (r.rest ++ ')' :: tail).dropWhile Text.isBlank }) = _
  rw [dropWhile_isBlank_append]
  rfl

theorem count_eq : count = dropBlanks >>= fun _ => takeWhile Char.isDigit >>= fun digits =>
    dropBlanks >>= fun _ => match (String.ofList digits).toNat? with
      | some value => require (value ≤ maxCount) >>= fun _ => pure value
      | none => failure := rfl

theorem steady_count : Steady count := by
  rw [count_eq]
  refine steady_dropBlanks.bind fun _ => (steady_takeWhile (by decide)).bind fun digits =>
    steady_dropBlanks.bind fun _ => ?_
  split
  · exact (steady_require _).bind fun _ => steady_pure _
  · exact steady_failure

theorem steady_reluctance : Steady reluctance :=
  Steady.sees_bind (by decide) eager_drop.toAhead (steady_pure ())

/-- The bounds behind an opening brace. -/
def boundsInside : Reading (Nat × Option Nat) := do
  let least ← count
  let most ← do
    if !(← sees ',') then pure (some least)
    else
      advance
      if ← sees '}' then pure none else some <$> count
  require (most.all (least ≤ ·))
  expect '}'
  skipBlanks
  reluctance
  return (least, most)

theorem countedBounds_eq : countedBounds = advance >>= fun _ => boundsInside := rfl

theorem steady_boundsInside : Steady boundsInside := by
  have close (least : Nat) (most : Option Nat) : Steady (do
      require (most.all (least ≤ ·))
      expect '}'
      skipBlanks
      reluctance
      return (least, most)) :=
    (steady_require _).bind fun _ => (steady_expect '}').bind fun _ => steady_skipBlanks.bind fun _ =>
      steady_reluctance.bind fun _ => steady_pure _
  have ranged : Steady (some <$> count) := by
    rw [map_eq_pure_bind]
    exact steady_count.bind fun _ => steady_pure _
  refine steady_count.bind fun least => Steady.sees_bind (by decide) ?_ ?_
  · refine (eager_advance.bind fun _ => Steady.sees_bind (by decide) ?_ ?_).toAhead
    · exact ((steady_pure none).bind (close least)).ahead
    · exact ranged.bind (close least)
  · exact (steady_pure (some least)).bind (close least)

/-- No count starts with the parenthesis. -/
theorem boundsInside_of_closing (ahead : r.rest.head? = some ')') : boundsInside r = none := by
  refine bind_of_none ?_
  obtain ⟨tail, split⟩ := List.head?_eq_some_iff.1 ahead
  have same : { r with rest := ')' :: tail } = r := by rw [← split]
  have blanks : dropBlanks r = some ((), r) := by
    change some ((), { r with rest := r.rest.dropWhile Text.isBlank }) = _
    rw [split, List.dropWhile_cons_of_neg (by decide), same]
  have digits : takeWhile Char.isDigit r = some ([], r) := by
    have none : span r.flags.verbose Char.isDigit false (')' :: tail) = ([], ')' :: tail) := by
      have plain : Text.isBlank ')' = false := by decide
      simp [span, plain]
    rw [takeWhile_eq, split, none, same]
  have empty : (String.ofList []).toNat? = none := by
    simp [String.toNat?, String.Slice.toNat?, String.Slice.isNat]
  rw [count_eq, bind_of_some blanks, bind_of_some digits, bind_of_some blanks, empty]
  rfl

theorem eager_countedBounds : Eager countedBounds :=
  eager_advance.bind fun _ => steady_boundsInside

/-- A brace that is left behind a word boundary is no bound, or is one that is closed behind the
parenthesis. -/
theorem leaves_countedBounds {tail : List Char} (braced : Braced r tail) :
    countedBounds.Leaves r tail := by
  intro bounds r'' read
  obtain ⟨-, r', passes, behind⟩ := braced
  rw [countedBounds_eq, bind_of_some passes] at read
  rcases behind with closing | suffix
  · rw [boundsInside_of_closing closing] at read
    cases read
  · exact (steady_boundsInside.shrinks r' bounds r'' read).trans suffix

theorem eager_bounds (sign : Char) : Eager (bounds sign) := by
  unfold bounds
  split
  · exact eager_countedBounds
  · exact eager_drop.bind fun _ => steady_reluctance.bind fun _ => steady_pure _

theorem steady_point : Steady point :=
  steady_flags.bind fun _ => (steady_require _).bind fun _ => steady_pure _

theorem steady_anchor (ofText : Look) (ofLine : LineEnding → Look) :
    Steady (anchor ofText ofLine) := by
  refine steady_flags.bind fun flags => ?_
  split
  · exact steady_pure _
  · exact steady_pure _

/-- The part that an escape stands for. -/
def escapedPiece : Escape → Reading Piece
  | .literal c => return .step (← withCase (.single c))
  | .set set => return .step set
  | .look look => return .look look

theorem steady_escapedPiece (e : Escape) : Steady (escapedPiece e) := by
  cases e with
  | literal c => exact (steady_withCase _).bind fun _ => steady_pure _
  | set set => exact steady_pure _
  | look look => exact steady_pure _

theorem single_cases (sign : Char) : sign = '\\' ∨ Eager (single sign) := by
  unfold single
  split
  · exact .inr (eager_bracket.bind fun _ => steady_pure _)
  · exact .inl rfl
  · exact .inr (eager_drop.bind fun _ => steady_point.bind fun _ => steady_pure _)
  · exact .inr (eager_drop.bind fun _ => (steady_anchor _ _).bind fun _ => steady_pure _)
  · exact .inr (eager_drop.bind fun _ => (steady_anchor _ _).bind fun _ => steady_pure _)
  · exact .inr (eager_drop.bind fun _ => (steady_withCase _).bind fun _ => steady_pure _)

theorem reads_single (sign : Char) : (single sign).Reads := by
  rcases single_cases sign with rfl | eager
  · exact reads_escape.bind fun e => (steady_escapedPiece e).shrinks
  · exact eager.reads

theorem whenClosed_single (sign : Char) (ahead : r.rest ≠ []) :
    WhenClosed passedOrBraced (single sign) r := by
  rcases single_cases sign with rfl | eager
  · refine Parallel.bind (whenClosed_escape ahead)
      (fun e r' _ => (steady_escapedPiece e r').mono fun _ _ _ => .inl)
      (fun e => (steady_escapedPiece e).shrinks) (fun e r' tail piece r'' past read => ?_)
      fun _ _ _ _ _ => rfl
    rcases past with gone | ⟨⟨look, rfl⟩, braced⟩
    · exact .inl (((steady_escapedPiece e).shrinks r' piece r'' read).trans gone)
    · cases read
      exact .inr braced
  · exact (eager.whenClosed r ahead).mono fun _ _ _ => .inl

/-! ### Choices -/

/-- How the rest of a choice is read, by the sequences before the present one and by its items so far
in reverse. -/
abbrev ChoiceReading := List Piece → List Item → Reading Piece

/-- An item that is no group; `again` reads the rest of the choice. -/
def itemRound (again : ChoiceReading) (others : List Piece) (items : List Item) (sign : Char) :
    Reading Piece :=
  if isRepetition sign then
    match items with
    | .piece piece :: items => do
      let (least, most) ← bounds sign
      again others (.piece (piece.iterate least most) :: items)
    | _ => failure
  else do
    let piece ← single sign
    again others (.piece piece :: items)

/-- What follows the opening of a group, which restores the flags, or a setting of flags. -/
def openedRound (again : ChoiceReading) (others : List Piece) (items : List Item) (outer : Flags) :
    Opening → Reading Piece
  | .settings => again others (.settings :: items)
  | .group captures => do
    let inner ← again [] []
    expect ')'
    setFlags outer
    again others (.piece (inner.group captures) :: items)

/-- An item that starts with a parenthesis. -/
def groupRound (again : ChoiceReading) (others : List Piece) (items : List Item) : Reading Piece := do
  let outer ← flags
  let opened ← opening
  openedRound again others items outer opened

/-- What is read at a character. -/
def choiceRound (again : ChoiceReading) (others : List Piece) (items : List Item) :
    Option Char → Reading Piece
  | none | some ')' => return .choice (.concat items.reverse) others
  | some '|' => do
    drop 1
    again (.concat items.reverse :: others) []
  | some '(' => groupRound again others items
  | some sign => itemRound again others items sign

def choiceNext (again : ChoiceReading) (others : List Piece) (items : List Item) : Reading Piece := do
  choiceRound again others items (← rest).head?

theorem choices_succ (fuel : Nat) (others : List Piece) (items : List Item) :
    choices (fuel + 1) others items =
      skipBlanks >>= fun _ => choiceNext (choices fuel) others items := rfl

theorem choiceNext_eq (again : ChoiceReading) (others : List Piece) (items : List Item) :
    choiceNext again others items r = choiceRound again others items r.rest.head? r := rfl

section

variable {again : ChoiceReading} {again' : List Char → ChoiceReading} {text : List Char} {c : Char}
  {others : List Piece} {items : List Item}

theorem choiceRound_item (close : c ≠ ')') (bar : c ≠ '|') (opened : c ≠ '(') :
    choiceRound again others items (some c) = itemRound again others items c := by
  unfold choiceRound
  split <;> simp_all

theorem leaves_itemRound (shrinks : ∀ others items, (again others items).Shrinks)
    (ahead : r.rest = c :: text) : (itemRound again others items c).Leaves r text := by
  unfold itemRound
  split
  · split
    · exact ((eager_bounds c).reads.leaves ahead).bind fun _ => shrinks _ _
    · exact fun _ _ read => nomatch read
  · exact ((reads_single c).leaves ahead).bind fun _ => shrinks _ _

theorem leaves_groupRound (shrinks : ∀ others items, (again others items).Shrinks)
    (ahead : r.rest = c :: text) : (groupRound again others items).Leaves r text := by
  intro piece r'' read
  obtain ⟨_, _, ⟨⟩, read⟩ := bind_eq_some.1 read
  refine (eager_opening.reads.leaves ahead).bind (fun opened => ?_) piece r'' read
  cases opened with
  | settings => exact shrinks _ _
  | group captures =>
    exact (shrinks _ _).bind fun _ => (steady_expect ')').shrinks.bind fun _ =>
      (steady_setFlags _).shrinks.bind fun _ => shrinks _ _

theorem shrinks_choiceNext (shrinks : ∀ others items, (again others items).Shrinks) :
    (choiceNext again others items).Shrinks := by
  intro r piece r' read
  rw [choiceNext_eq] at read
  cases ahead : r.rest with
  | nil =>
    rw [ahead] at read
    cases read
    simp [ahead]
  | cons c text =>
    rw [ahead, List.head?_cons] at read
    by_cases close : c = ')'
    · subst close
      cases read
      rw [ahead]
    · refine List.IsSuffix.trans ?_ (List.suffix_cons c text)
      by_cases bar : c = '|'
      · subst bar
        exact (eager_drop.reads.leaves ahead).bind (fun _ => shrinks _ _) piece r' read
      by_cases opened : c = '('
      · subst opened
        exact leaves_groupRound shrinks ahead piece r' read
      · rw [choiceRound_item close bar opened] at read
        exact leaves_itemRound shrinks ahead piece r' read

theorem shrinks_choices (fuel : Nat) (others : List Piece) (items : List Item) :
    (choices fuel others items).Shrinks := by
  induction fuel generalizing others items with
  | zero => exact steady_failure.shrinks
  | succ fuel ih => exact steady_skipBlanks.shrinks.bind fun _ => shrinks_choiceNext ih

theorem parallel_itemRound
    (twin : ∀ others items, Twin (again others items) (fun tail => again' tail others items) text)
    (braced : ∀ tail others piece items r, Braced r tail →
      (again' tail others (.piece piece :: items)).Leaves r tail)
    (ahead : r.rest = c :: text) : Parallel passed (itemRound again others items c)
      (fun tail => itemRound (again' tail) others items c) r := by
  have nonempty : r.rest ≠ [] := by simp [ahead]
  unfold itemRound
  split
  · split
    · exact ((eager_bounds c).whenClosed r nonempty).twin ((eager_bounds c).reads.leaves ahead)
        fun _ => twin _ _
    · exact steady_failure r
  · refine Parallel.bind (whenClosed_single c nonempty)
      (fun piece r' read => (twin _ _).parallel r' ((reads_single c).leaves ahead piece r' read))
      (fun _ => (twin _ _).shrinks) (fun piece r' tail whole r'' past read => ?_)
      fun piece r' tail _ empty => (twin _ _).ended tail r' empty
    rcases past with gone | brace
    · exact ((twin _ _).shrinks' tail r' whole r'' read).trans gone
    · exact braced tail _ _ _ r' brace whole r'' read

theorem parallel_groupRound
    (twin : ∀ others items, Twin (again others items) (fun tail => again' tail others items) text)
    (ahead : r.rest = c :: text) : Parallel passed (groupRound again others items)
      (fun tail => groupRound (again' tail) others items) r := by
  have opened (opened : Opening) : Twin (openedRound again others items r.flags opened)
      (fun tail => openedRound (again' tail) others items r.flags opened) text := by
    cases opened with
    | settings => exact twin _ _
    | group captures =>
      exact (twin [] []).bind fun inner => ((steady_expect ')').twin text).bind fun _ =>
        ((steady_setFlags r.flags).twin text).bind fun _ => twin _ _
  exact Parallel.of_eq (m := groupRound again others items)
    ((eager_opening.whenClosed r (by simp [ahead])).twin (eager_opening.reads.leaves ahead) opened)
    (List.suffix_refl _) rfl fun _ => rfl

/-- The sequence so far ends in front of the parenthesis as it ends at the end of the text. -/
theorem twin_choiceNext
    (twin : ∀ {c : Char} {rest : List Char}, c :: rest <:+ text → ∀ others items,
      Twin (again others items) (fun tail => again' tail others items) rest)
    (shrinks : ∀ others items, (again others items).Shrinks)
    (shrinks' : ∀ tail others items, (again' tail others items).Shrinks)
    (braced : ∀ tail others piece items r, Braced r tail →
      (again' tail others (.piece piece :: items)).Leaves r tail) :
    Twin (choiceNext again others items)
      (fun tail => choiceNext (again' tail) others items) text where
  shrinks := shrinks_choiceNext shrinks
  shrinks' tail := shrinks_choiceNext (shrinks' tail)
  ended tail r empty := by
    rw [choiceNext_eq, choiceNext_eq, empty]
    rfl
  parallel r suffix := by
    have finished (ended : r.rest.head? = none ∨ r.rest.head? = some ')') :
        Parallel passed (choiceNext again others items)
          (fun tail => choiceNext (again' tail) others items) r := by
      refine .along (.choice (.concat items.reverse) others) r ?_ (List.suffix_refl _) fun tail => ?_
      · rw [choiceNext_eq]
        rcases ended with none | close
        · rw [none]
          rfl
        · rw [close]
          rfl
      · have close : (r.extend (')' :: tail)).rest.head? = some ')' := by
          rcases ended with none | close
          · simp [List.head?_eq_none_iff.1 none]
          · simp [close]
        rw [choiceNext_eq, close]
        rfl
    cases ahead : r.rest with
    | nil => exact finished (.inl (by simp [ahead]))
    | cons c rest =>
      have twin' (others : List Piece) (items : List Item) := twin (ahead ▸ suffix) others items
      by_cases close : c = ')'
      · exact finished (.inr (by simp [ahead, close]))
      have round : Parallel passed (choiceRound again others items (some c))
          (fun tail => choiceRound (again' tail) others items (some c)) r := by
        by_cases bar : c = '|'
        · subst bar
          exact (eager_drop.whenClosed r (by simp [ahead])).twin (eager_drop.reads.leaves ahead)
            fun _ => twin' _ _
        by_cases opened : c = '('
        · subst opened
          exact parallel_groupRound twin' ahead
        · simp only [choiceRound_item close bar opened]
          exact parallel_itemRound twin' braced ahead
      refine round.of_eq (List.suffix_refl _) ?_ fun tail => ?_
      · rw [choiceNext_eq, ahead, List.head?_cons]
      · rw [choiceNext_eq]
        simp [ahead]

end

theorem skipBlanks_of_head {c : Char} (ahead : r.rest.head? = some c) (plain : Text.isBlank c = false)
    (sign : c ≠ '#') : skipBlanks r = some ((), r) := by
  obtain ⟨text, split⟩ := List.head?_eq_some_iff.1 ahead
  have none : span r.flags.verbose (fun _ => false) false (c :: text) = ([], c :: text) := by
    simp [span, plain, sign]
  refine bind_of_some (a := []) ?_
  rw [takeWhile_eq, split, none, ← split]

/-- Behind a word boundary that left a brace, no count is read unless it ends past the parenthesis. -/
theorem leaves_choices {tail : List Char} (fuel : Nat) (others : List Piece) (piece : Piece)
    (items : List Item) (braced : Braced r tail) :
    (choices fuel others (.piece piece :: items)).Leaves r tail := by
  intro whole r'' read
  cases fuel with
  | zero => cases read
  | succ fuel =>
    rw [choices_succ, bind_of_some (skipBlanks_of_head braced.1 (by decide) (by decide)),
      choiceNext_eq, braced.1] at read
    exact ((leaves_countedBounds braced).bind fun _ => shrinks_choices fuel _ _) whole r'' read

/-- The rest of a choice is read the same with the parenthesis behind, whatever the fuel, as long as
it is enough. -/
theorem twin_choices (n : Nat) (fuel : List Char → Nat) (text : List Char)
    (enough : text.length < n) (enough' : ∀ tail, text.length + 1 + tail.length < fuel tail)
    (others : List Piece) (items : List Item) :
    Twin (choices n others items) (fun tail => choices (fuel tail) others items) text := by
  induction n generalizing fuel text others items with
  | zero => exact absurd enough (Nat.not_lt_zero _)
  | succ n ih =>
    obtain ⟨less, rfl⟩ : ∃ less : List Char → Nat, fuel = fun tail => less tail + 1 :=
      ⟨fun tail => fuel tail - 1, funext fun tail =>
        (Nat.sub_add_cancel (Nat.one_le_of_lt (enough' tail))).symm⟩
    refine (steady_skipBlanks.twin text).bind fun _ => twin_choiceNext
      (fun {c rest} suffix others items => ih less rest ?_ (fun tail => ?_) others items)
      (shrinks_choices n) (fun tail => shrinks_choices (less tail))
      fun tail others piece items r braced => leaves_choices (less tail) others piece items braced
    · have shorter := suffix.length_le
      rw [List.length_cons] at shorter
      omega
    · have shorter := suffix.length_le
      have more : text.length + 1 + tail.length < less tail + 1 := enough' tail
      rw [List.length_cons] at shorter
      omega

/-! ### Where choices stop -/

/-- A reading that goes on to the end of the pattern, or to a parenthesis that closes no group which
it read. -/
def Stops {α : Type} (m : Reading α) : Prop :=
  ∀ r a r', m r = some (a, r') → r'.rest.head? = none ∨ r'.rest.head? = some ')'

theorem Stops.after {α β : Type} {m : Reading α} {f : α → Reading β} (h : ∀ a, (f a).Stops) :
    (m >>= f).Stops := by
  intro r b r'' read
  obtain ⟨a, r', -, second⟩ := bind_eq_some.1 read
  exact h a r' b r'' second

theorem stops_itemRound {again : ChoiceReading} (stops : ∀ others items, (again others items).Stops)
    (others : List Piece) (items : List Item) (sign : Char) :
    (itemRound again others items sign).Stops := by
  unfold itemRound
  split
  · split
    · exact .after fun _ => stops _ _
    · exact fun _ _ _ read => nomatch read
  · exact .after fun _ => stops _ _

theorem stops_openedRound {again : ChoiceReading} (stops : ∀ others items, (again others items).Stops)
    (others : List Piece) (items : List Item) (outer : Flags) (opened : Opening) :
    (openedRound again others items outer opened).Stops := by
  cases opened with
  | settings => exact stops _ _
  | group captures => exact .after fun _ => .after fun _ => .after fun _ => stops _ _

theorem stops_choiceNext {again : ChoiceReading} (stops : ∀ others items, (again others items).Stops)
    (others : List Piece) (items : List Item) : (choiceNext again others items).Stops := by
  intro r piece r' read
  rw [choiceNext_eq] at read
  cases ahead : r.rest.head? with
  | none =>
    rw [ahead] at read
    cases read
    exact .inl ahead
  | some c =>
    rw [ahead] at read
    by_cases close : c = ')'
    · subst close
      cases read
      exact .inr ahead
    by_cases bar : c = '|'
    · subst bar
      exact Stops.after (fun _ => stops _ _) r piece r' read
    by_cases opened : c = '('
    · subst opened
      exact Stops.after (fun _ => .after fun _ => stops_openedRound stops _ _ _ _) r piece r' read
    · rw [choiceRound_item close bar opened] at read
      exact stops_itemRound stops _ _ _ r piece r' read

theorem stops_choices (fuel : Nat) (others : List Piece) (items : List Item) :
    (choices fuel others items).Stops := by
  induction fuel generalizing others items with
  | zero => exact fun _ _ _ read => nomatch read
  | succ fuel ih => exact .after fun _ => stops_choiceNext ih _ _

end Reading

end ExprScript.Pattern
