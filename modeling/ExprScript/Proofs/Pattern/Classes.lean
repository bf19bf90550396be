import ExprScript.Pattern.Syntax.Bracket
import ExprScript.Proofs.Pattern.Escapes

/-!
# Classes with a closing parenthesis behind

A class that is cut off takes the parenthesis in as a character, and goes on behind it. What it looks
at ahead of a hyphen or a bracket is never changed by the parenthesis.
-/

namespace ExprScript.Pattern

theorem dropWhile_isBlank_append (text tail : List Char) :
    (text ++ ')' :: tail).dropWhile Text.isBlank = text.dropWhile Text.isBlank ++ ')' :: tail := by
  have plain : Text.isBlank ')' = false := by decide
  rw [List.dropWhile_append]
  cases blank : text.dropWhile Text.isBlank <;> simp [plain]

/-- What is ahead behind blanks and one number sign. -/
def signs (text : List Char) : List Char :=
  let signs := text.dropWhile Text.isBlank
  if signs.head? = some '#' then signs.tail.dropWhile Text.isBlank else signs

theorem signs_append (text tail : List Char) :
    signs (text ++ ')' :: tail) = signs text ++ ')' :: tail := by
  rw [signs, signs, dropWhile_isBlank_append]
  cases text.dropWhile Text.isBlank with
  | nil => rfl
  | cons c rest =>
    simp only [List.cons_append, List.head?_cons, List.tail_cons, dropWhile_isBlank_append]
    by_cases sign : some c = some '#' <;> simp [sign]

theorem signs_of_head {text : List Char} {c : Char} (ahead : text.head? = some c)
    (plain : Text.isBlank c = false) (sign : c ≠ '#') : signs text = text := by
  cases text with
  | nil => cases ahead
  | cons c' rest =>
    cases ahead
    simp [signs, plain, sign]

/-- The parenthesis is not one of the signs that matter behind a hyphen, nor does it hide one. -/
theorem signBehind?_append (verbose : Bool) (text tail : List Char) {c : Char} (other : c ≠ ')')
    (plain : Text.isBlank c = false) (sign : c ≠ '#') :
    signBehind? verbose (text ++ ')' :: tail) = some c ↔ signBehind? verbose text = some c := by
  have ahead : (text ++ ')' :: tail).head? = some c ↔ text.head? = some c := by
    cases text <;> simp [other.symm]
  cases verbose with
  | false => simpa [signBehind?] using ahead
  | true =>
    change ((signs (text ++ ')' :: tail)).head? <|> (text ++ ')' :: tail).head?) = _ ↔
      ((signs text).head? <|> text.head?) = _
    rw [signs_append]
    cases rest : signs text with
    | nil =>
      have hidden : text.head? ≠ some c := fun ahead => by
        rw [signs_of_head ahead plain sign] at rest
        simp [rest] at ahead
      simp [other.symm, hidden]
    | cons c' rest => simp

/-- The class with a name up to the next colon, whose first colon was read. -/
def namedClass? (negated : Bool) (text : List Char) : Option (Bool × Text.Ranges × List Char) :=
  let name := text.takeWhile (· ≠ ':')
  match bracketClasses.lookup (String.ofList name), text.drop name.length with
  | some ranges, ':' :: ']' :: behind => some (negated, ranges, behind)
  | _, _ => none

theorem bracketClass?_eq (text : List Char) : bracketClass? text =
    if text.head? = some ':' then
      namedClass? (text.tail.head? == some '^')
        (if text.tail.head? == some '^' then text.tail.tail else text.tail)
    else none := by
  cases text with
  | nil => rfl
  | cons c text =>
    by_cases colon : c = ':'
    · subst colon
      rfl
    · simp [bracketClass?, colon]

theorem takeWhile_ne_append {c : Char} {front : List Char} (apart : c ∉ front) (behind : List Char) :
    (front ++ c :: behind).takeWhile (· ≠ c) = front := by
  have all (c' : Char) (listed : c' ∈ front) : decide (c' ≠ c) = true := by
    rw [decide_eq_true_eq]
    rintro rfl
    exact apart listed
  rw [List.takeWhile_append_of_pos all]
  simp

theorem namedClass?_eq_some {negated negated' : Bool} {text behind : List Char}
    {ranges : Text.Ranges} : namedClass? negated text = some (negated', ranges, behind) ↔
      negated' = negated ∧ ∃ name, text = name ++ ':' :: ']' :: behind ∧ ':' ∉ name ∧
        bracketClasses.lookup (String.ofList name) = some ranges := by
  constructor
  · intro found
    have split := List.takeWhile_append_dropWhile (p := (· ≠ ':')) (l := text)
    have name : ':' ∉ text.takeWhile (· ≠ ':') := fun listed => by
      simpa using List.all_eq_true.1 List.all_takeWhile ':' listed
    generalize hn : text.takeWhile (· ≠ ':') = front at split name
    simp only [namedClass?, hn] at found
    split at found
    · rename_i ranges' behind' named rest
      cases found
      refine ⟨rfl, front, ?_, name, named⟩
      rw [← split, List.drop_left] at rest
      rw [← rest, split]
    · cases found
  · rintro ⟨rfl, name, rfl, apart, named⟩
    simp only [namedClass?, takeWhile_ne_append apart, named, List.drop_left]

theorem not_mem_name {name : List Char} {ranges : Text.Ranges}
    (named : bracketClasses.lookup (String.ofList name) = some ranges) : ')' ∉ name := by
  have plain : ∀ entry ∈ bracketClasses, ')' ∉ entry.1.toList := by decide
  obtain ⟨_, _, split, -⟩ := List.lookup_eq_some_iff.1 named
  have listed : (String.ofList name, ranges) ∈ bracketClasses := by simp [split]
  simpa using plain _ listed

theorem namedClass?_append (negated : Bool) (text tail : List Char) :
    namedClass? negated (text ++ ')' :: tail) =
      (namedClass? negated text).map fun (negated, ranges, behind) =>
        (negated, ranges, behind ++ ')' :: tail) := by
  cases alone : namedClass? negated text with
  | some found =>
    obtain ⟨negated', ranges, behind⟩ := found
    obtain ⟨rfl, name, rfl, apart, named⟩ := namedClass?_eq_some.1 alone
    exact namedClass?_eq_some.2 ⟨rfl, name, by simp, apart, named⟩
  | none =>
    rw [Option.map_none, Option.eq_none_iff_forall_ne_some]
    rintro ⟨negated', ranges, behind⟩ found
    obtain ⟨rfl, name, split, apart, named⟩ := namedClass?_eq_some.1 found
    rcases List.append_eq_append_iff.1 split with ⟨more, rfl, rest⟩ | ⟨more, rfl, rest⟩
    · cases more with
      | nil => simp at rest
      | cons c more =>
        cases rest
        exact not_mem_name named (by simp)
    · obtain ⟨more, rfl⟩ : ∃ more', more = ':' :: ']' :: more' := by
        match more with
        | [] | [_] => simp at rest
        | _ :: _ :: more =>
          cases rest
          exact ⟨more, rfl⟩
      have found :
          namedClass? negated' (name ++ ':' :: ']' :: more) = some (negated', ranges, more) :=
        namedClass?_eq_some.2 ⟨rfl, name, rfl, apart, named⟩
      simp [alone] at found

theorem bracketClass?_append (text tail : List Char) :
    bracketClass? (text ++ ')' :: tail) = (bracketClass? text).map fun (negated, ranges, behind) =>
      (negated, ranges, behind ++ ')' :: tail) := by
  rw [bracketClass?_eq, bracketClass?_eq]
  cases text with
  | nil => simp
  | cons c text =>
    by_cases colon : c = ':'
    · cases text with
      | nil => simpa [colon] using namedClass?_append false [] tail
      | cons c' text =>
        by_cases caret : c' = '^'
        · simpa [colon, caret] using namedClass?_append true text tail
        · have other : (c' == '^') = false := by simpa using caret
          simpa [colon, other] using namedClass?_append false (c' :: text) tail
    · simp [colon]

theorem bracketClass?_suffix {text behind : List Char} {negated : Bool} {ranges : Text.Ranges}
    (found : bracketClass? text = some (negated, ranges, behind)) : behind <:+ text := by
  rw [bracketClass?_eq] at found
  split at found
  · obtain ⟨-, name, split, -⟩ := namedClass?_eq_some.1 found
    have inside : behind <:+ name ++ ':' :: ']' :: behind := ⟨name ++ [':', ']'], by simp⟩
    rw [← split] at inside
    refine inside.trans ?_
    split
    · exact (List.tail_suffix _).trans (List.tail_suffix text)
    · exact List.tail_suffix text
  · cases found

theorem ofSigns?_append (c : Char) (text tail : List Char) :
    SetOperation.ofSigns? (c :: text ++ ')' :: tail) = SetOperation.ofSigns? (c :: text) := by
  cases text with
  | nil => simp [SetOperation.ofSigns?]
  | cons c' text =>
    simp only [List.cons_append, SetOperation.ofSigns?]
    split <;> split <;> simp_all

namespace Reading

variable {r r' : Reader}

/-! ### Members -/

theorem shrinks_escape : Shrinks escape :=
  eager_drop.shrinks.bind fun _ => shrinks_peek.bind shrinks_signEscape

/-- A member by the character ahead. -/
def memberAt (c : Char) : Reading Escape := do
  if c = '\\' then escape
  else
    drop 1
    return .literal c

theorem shrinks_memberAt (c : Char) : (memberAt c).Shrinks := by
  unfold memberAt
  split
  · exact shrinks_escape
  · exact eager_drop.shrinks.bind fun _ => (steady_pure _).shrinks

theorem reads_memberAt (c : Char) : (memberAt c).Reads := by
  unfold memberAt
  split
  · exact reads_escape
  · exact eager_drop.reads.bind fun _ => (steady_pure _).shrinks

theorem reads_classMember : Reads classMember := Reads.peek_bind reads_memberAt

theorem whenClosed_classMember (r : Reader) : WhenClosed passedOrLook classMember r := by
  refine WhenClosed.peek_bind shrinks_memberAt (fun ended tail e r' read => ?_)
    fun c tail ahead => ?_
  · exact .inl (reads_memberAt ')' _ e r' ')' tail (by simp [ended]) read)
  · change WhenClosed passedOrLook (memberAt c) r
    unfold memberAt
    split
    · exact whenClosed_escape (by simp [ahead])
    · have literal : Eager (drop 1 >>= fun _ => pure (Escape.literal c)) :=
        eager_drop.bind fun _ => steady_pure _
      exact (literal.whenClosed r (by simp [ahead])).mono fun _ _ _ => .inl

theorem steady_classChar (e : Escape) : Steady (classChar e) := by
  cases e with
  | literal c => exact steady_flags.bind fun _ => (steady_require _).bind fun _ => steady_pure c
  | set => exact steady_failure
  | look => exact steady_failure

/-- A condition is no member of a class, so nothing of what is read with one is left. -/
theorem Steady.member_bind {α : Type} {f : Escape → Reading α}
    (h : ∀ e, Steady (f e)) (no : ∀ look r, f (.look look) r = none) :
    Steady (classMember >>= f) := by
  refine fun r => Parallel.bind (whenClosed_classMember r) (fun e r' _ => h e r')
    (fun e => (h e).shrinks) (fun e r' tail a r'' past read => ?_) fun _ _ _ _ _ => rfl
  rcases past with gone | ⟨⟨look, rfl⟩, -⟩
  · exact ((h e).shrinks _ _ _ read).trans gone
  · rw [no] at read
    cases read

/-- Whether the hyphen ahead makes a range of the member in front of it. -/
def IsRange (r : Reader) : Prop :=
  r.rest.head? = some '-' ∧ signBehind? r.flags.verbose r.rest.tail ≠ some ']' ∧
    signBehind? r.flags.verbose r.rest.tail ≠ some '-'

instance : Decidable (IsRange r) := inferInstanceAs (Decidable (_ ∧ _ ∧ _))

/-- The range from a member, whose hyphen is ahead. -/
def rangeFrom (member : Escape) : Reading CharSet := do
  advance
  let last ← classMember >>= classChar
  let first ← classChar member
  require (first ≤ last)
  return .ofRange first last

def memberAlone : Escape → Reading CharSet
  | .set set => return set
  | member => return .single (← classChar member)

/-- What follows a member in a class. -/
def rangeOrMember (member : Escape) : Reading CharSet := do
  let text ← rest
  let behind := signBehind? (← flags).verbose text.tail
  if text.head? = some '-' ∧ behind ≠ some ']' ∧ behind ≠ some '-' then rangeFrom member
  else memberAlone member

theorem classItem_eq :
    classItem = classMember >>= fun member => skipBlanks >>= fun _ => rangeOrMember member := rfl

theorem rangeOrMember_eq (member : Escape) : rangeOrMember member r =
    if IsRange r then rangeFrom member r else memberAlone member r := by
  change (if IsRange r then rangeFrom member else memberAlone member) r = _
  split <;> rfl

theorem isRange_extend (r : Reader) (tail : List Char) :
    IsRange (r.extend (')' :: tail)) ↔ IsRange r := by
  unfold IsRange Reader.extend
  cases r.rest with
  | nil => simp
  | cons c text =>
    simp only [List.cons_append, List.head?_cons, List.tail_cons, ne_eq,
      signBehind?_append r.flags.verbose text tail (show ']' ≠ ')' by decide) (by decide) (by decide),
      signBehind?_append r.flags.verbose text tail (show '-' ≠ ')' by decide) (by decide) (by decide)]

theorem eager_rangeFrom (member : Escape) : Eager (rangeFrom member) :=
  eager_advance.bind fun _ => (Steady.member_bind steady_classChar fun _ _ => rfl).bind fun _ =>
    (steady_classChar member).bind fun _ => (steady_require _).bind fun _ => steady_pure _

theorem steady_memberAlone (member : Escape) : Steady (memberAlone member) := by
  cases member with
  | set set => exact steady_pure set
  | literal c => exact (steady_classChar (.literal c)).bind fun _ => steady_pure _
  | look look => exact (steady_classChar (.look look)).bind fun _ => steady_pure _

theorem steady_rangeOrMember (member : Escape) : Steady (rangeOrMember member) := by
  intro r
  by_cases range : IsRange r
  · have ahead : r.rest ≠ [] := fun ended => by simp [IsRange, ended] at range
    refine Parallel.of_eq ((eager_rangeFrom member).whenClosed r ahead) (List.suffix_refl _) ?_
      fun tail => ?_
    · rw [rangeOrMember_eq, if_pos range]
    · rw [rangeOrMember_eq, if_pos ((isRange_extend r tail).2 range)]
  · refine Parallel.of_eq (steady_memberAlone member r) (List.suffix_refl _) ?_ fun tail => ?_
    · rw [rangeOrMember_eq, if_neg range]
    · rw [rangeOrMember_eq, if_neg ((isRange_extend r tail).not.2 range)]

theorem rangeOrMember_look (look : Look) (r : Reader) : rangeOrMember (.look look) r = none := by
  rw [rangeOrMember_eq]
  split
  · refine Option.eq_none_iff_forall_ne_some.2 fun ⟨set, r'⟩ read => ?_
    obtain ⟨_, _, -, read⟩ := bind_eq_some.1 read
    obtain ⟨_, _, -, read⟩ := bind_eq_some.1 read
    obtain ⟨_, _, read, -⟩ := bind_eq_some.1 read
    cases read
  · rfl

theorem steady_classItem : Steady classItem := by
  rw [classItem_eq]
  refine Steady.member_bind
    (fun member => steady_skipBlanks.bind fun _ => steady_rangeOrMember member) fun look r => ?_
  refine Option.eq_none_iff_forall_ne_some.2 fun ⟨set, r'⟩ read => ?_
  obtain ⟨_, _, -, read⟩ := bind_eq_some.1 read
  rw [rangeOrMember_look] at read
  cases read

theorem eager_classItem : Eager classItem :=
  ⟨steady_classItem.ahead, reads_classMember.bind fun member =>
    steady_skipBlanks.shrinks.bind fun _ => (steady_rangeOrMember member).shrinks⟩

/-! ### Whole classes -/

theorem eager_openClass : Eager openClass := by
  refine eager_advance.bind fun _ => Steady.sees_bind (by decide) ?_ ?_
  · exact (eager_advance.bind fun _ => steady_pure true).toAhead
  · exact steady_pure false

theorem steady_closeClass (negated : Bool) (inner : ClassPart) : Steady (closeClass negated inner) :=
  (steady_withCase _).bind fun _ => (steady_complementIf negated _).bind fun _ => steady_pure _

theorem steady_joinOperands (left : Option (SetOperation × ClassPart)) (parts : List ClassPart) :
    Steady (joinOperands left parts) := by
  cases left with
  | none => exact steady_pure _
  | some left =>
    exact (steady_withCase _).bind fun _ => (steady_withCase _).bind fun _ => steady_pure _

/-- How the rest of a class is read: whether only hyphens were read so far, the operand on the left
and the parts since. -/
abbrev ClassReading := Bool → Option (SetOperation × ClassPart) → List ClassPart → Reading ClassPart

/-- One round inside a class at a text that starts with `c`; `inside` reads the rest of the class. -/
def classRound (inside : ClassReading) (atStart : Bool) (left : Option (SetOperation × ClassPart))
    (parts : List ClassPart) (c : Char) (text : List Char) : Reading ClassPart :=
  if atStart && (c == '-' || (c == ']' && parts.isEmpty)) then do
    drop 1
    inside (c == '-') left (⟨.single c, 0⟩ :: parts)
  else if c = ']' then do
    drop 1
    joinOperands left parts
  else if c = '[' then
    match bracketClass? text.tail with
    | some (negated, ranges, behind) => do
      setRest behind
      let set ← complementIf negated (← withCase (.ranges ranges))
      inside false left (⟨set, 0⟩ :: parts)
    | none => do
      let negated ← openClass
      let inner ← inside true none []
      let part ← closeClass negated inner
      inside false left (part :: parts)
  else match SetOperation.ofSigns? text with
    | some operation => do
      drop 2
      let operand ← joinOperands left parts
      inside false (some (operation, operand)) []
    | none => do
      let set ← classItem
      inside false left (⟨set, 0⟩ :: parts)

/-- The round that comes next, if there is anything to read. -/
def classNext (inside : ClassReading) (atStart : Bool) (left : Option (SetOperation × ClassPart))
    (parts : List ClassPart) : Reading ClassPart := do
  let text ← rest
  let c ← peek
  classRound inside atStart left parts c text

theorem classNext_nil (inside : ClassReading) (atStart : Bool)
    (left : Option (SetOperation × ClassPart)) (parts : List ClassPart) (ended : r.rest = []) :
    classNext inside atStart left parts r = none := by
  refine Option.eq_none_iff_forall_ne_some.2 fun ⟨part, r'⟩ read => ?_
  obtain ⟨_, _, ⟨⟩, read⟩ := bind_eq_some.1 read
  obtain ⟨c, _, found, -⟩ := bind_eq_some.1 read
  obtain ⟨-, tail, ahead⟩ := peek_eq_some.1 found
  simp [ended] at ahead

theorem classNext_cons (inside : ClassReading) (atStart : Bool)
    (left : Option (SetOperation × ClassPart)) (parts : List ClassPart) {c : Char} {text : List Char}
    (ahead : r.rest = c :: text) : classNext inside atStart left parts r =
      classRound inside atStart left parts c (c :: text) r := by
  have found : peek r = some (c, r) := peek_eq_some.2 ⟨rfl, text, ahead⟩
  change (peek >>= fun c => classRound inside atStart left parts c r.rest) r = _
  rw [bind_of_some found, ahead]

section

variable {inside : ClassReading} {inside' : List Char → ClassReading} {text : List Char} {c : Char}
  {atStart : Bool} {left : Option (SetOperation × ClassPart)} {parts : List ClassPart}

theorem leaves_drop_two (ahead : r.rest = c :: text) : (drop 2).Leaves r text := by
  rintro _ r' ⟨⟩
  simpa [ahead] using List.drop_suffix 1 text

theorem leaves_classRound (shrinks : ∀ atStart left parts, (inside atStart left parts).Shrinks)
    (ahead : r.rest = c :: text) :
    (classRound inside atStart left parts c (c :: text)).Leaves r text := by
  unfold classRound
  split
  · exact (eager_drop.reads.leaves ahead).bind fun _ => shrinks _ _ _
  split
  · exact (eager_drop.reads.leaves ahead).bind fun _ => (steady_joinOperands left parts).shrinks
  split
  · split
    · rename_i negated ranges behind found
      have passes : (setRest behind).Leaves r text := by
        rintro _ r' ⟨⟩
        exact bracketClass?_suffix found
      exact passes.bind fun _ => (steady_withCase _).shrinks.bind fun _ =>
        (steady_complementIf negated _).shrinks.bind fun _ => shrinks _ _ _
    · exact (eager_openClass.reads.leaves ahead).bind fun _ => (shrinks _ _ _).bind fun _ =>
        (steady_closeClass _ _).shrinks.bind fun _ => shrinks _ _ _
  · split
    · exact (leaves_drop_two ahead).bind fun _ => (steady_joinOperands left parts).shrinks.bind
        fun _ => shrinks _ _ _
    · exact (eager_classItem.reads.leaves ahead).bind fun _ => shrinks _ _ _

theorem shrinks_classNext (shrinks : ∀ atStart left parts, (inside atStart left parts).Shrinks) :
    (classNext inside atStart left parts).Shrinks := by
  intro r part r' read
  cases ahead : r.rest with
  | nil =>
    rw [classNext_nil _ _ _ _ ahead] at read
    cases read
  | cons c text =>
    rw [classNext_cons _ _ _ _ ahead] at read
    exact (leaves_classRound shrinks ahead part r' read).trans (List.suffix_cons c text)

theorem shrinks_classInside (fuel : Nat) (atStart : Bool) (left : Option (SetOperation × ClassPart))
    (parts : List ClassPart) : (classInside fuel atStart left parts).Shrinks := by
  induction fuel generalizing atStart left parts with
  | zero => exact steady_failure.shrinks
  | succ fuel ih => exact steady_skipBlanks.shrinks.bind fun _ => shrinks_classNext ih

/-- A round reads the same with the parenthesis behind, if the rest of the class does. -/
theorem parallel_classRound
    (again : ∀ atStart left parts, Twin (inside atStart left parts)
      (fun tail => inside' tail atStart left parts) text)
    (ahead : r.rest = c :: text) :
    Parallel passed (classRound inside atStart left parts c (c :: text))
      (fun tail => classRound (inside' tail) atStart left parts c (c :: text ++ ')' :: tail)) r := by
  have nonempty : r.rest ≠ [] := by simp [ahead]
  have dropped : (drop 1).Leaves r text := eager_drop.reads.leaves ahead
  unfold classRound
  simp only [List.cons_append, List.tail_cons]
  split
  · exact (eager_drop.whenClosed r nonempty).twin dropped fun _ => again _ _ _
  split
  · exact (eager_drop.whenClosed r nonempty).twin dropped fun _ =>
      (steady_joinOperands left parts).twin text
  split
  · simp only [bracketClass?_append]
    cases found : bracketClass? text with
    | some class_ =>
      obtain ⟨negated, ranges, behind⟩ := class_
      have passes : (setRest behind).Leaves r text := by
        rintro _ r' ⟨⟩
        exact bracketClass?_suffix found
      have along : Parallel passed (setRest behind)
          (fun tail => setRest (behind ++ ')' :: tail)) r :=
        .along () { r with rest := behind } rfl
          ((bracketClass?_suffix found).trans (ahead ▸ List.suffix_cons c text)) fun _ => rfl
      exact along.twin passes fun _ => ((steady_withCase _).twin text).bind fun _ =>
        ((steady_complementIf negated _).twin text).bind fun _ => again _ _ _
    | none =>
      exact (eager_openClass.whenClosed r nonempty).twin (eager_openClass.reads.leaves ahead)
        fun negated => (again true none []).bind fun inner =>
          ((steady_closeClass negated inner).twin text).bind fun _ => again _ _ _
  · have same (tail : List Char) := ofSigns?_append c text tail
    simp only [List.cons_append] at same
    simp only [same]
    cases found : SetOperation.ofSigns? (c :: text) with
    | some operation =>
      have two : 2 ≤ r.rest.length := by
        cases text with
        | nil => simp [SetOperation.ofSigns?] at found
        | cons c' behind => simp [ahead]
      exact (whenClosed_drop two).twin (leaves_drop_two ahead) fun _ =>
        ((steady_joinOperands left parts).twin text).bind fun _ => again _ _ _
    | none =>
      exact (eager_classItem.whenClosed r nonempty).twin (eager_classItem.reads.leaves ahead)
        fun _ => again _ _ _

theorem twin_classNext
    (again : ∀ {c : Char} {rest : List Char}, c :: rest <:+ text → ∀ atStart left parts,
      Twin (inside atStart left parts) (fun tail => inside' tail atStart left parts) rest)
    (shrinks : ∀ atStart left parts, (inside atStart left parts).Shrinks)
    (shrinks' : ∀ tail atStart left parts, (inside' tail atStart left parts).Shrinks) :
    Twin (classNext inside atStart left parts)
      (fun tail => classNext (inside' tail) atStart left parts) text where
  shrinks := shrinks_classNext shrinks
  shrinks' tail := shrinks_classNext (shrinks' tail)
  ended tail r empty := by rw [classNext_nil _ _ _ _ empty, classNext_nil _ _ _ _ empty]
  parallel r suffix := by
    cases ahead : r.rest with
    | nil =>
      refine .past (fun tail part r' read => ?_) fun part r' read => ?_
      · have sees : (r.extend (')' :: tail)).rest = ')' :: tail := by simp [ahead]
        rw [classNext_cons _ _ _ _ sees] at read
        exact leaves_classRound (shrinks' tail) sees part r' read
      · rw [classNext_nil _ _ _ _ ahead] at read
        cases read
    | cons c rest =>
      refine Parallel.of_eq (parallel_classRound (again (ahead ▸ suffix)) ahead)
        (List.suffix_refl _) (classNext_cons _ _ _ _ ahead) fun tail => ?_
      exact classNext_cons _ _ _ _ (by simp [ahead])

end

/-- The inside of a class is read the same with the parenthesis behind, whatever the fuel, as long as
it is enough. -/
theorem twin_classInside (n : Nat) (fuel : List Char → Nat) (text : List Char)
    (enough : text.length < n) (enough' : ∀ tail, text.length + 1 + tail.length < fuel tail)
    (atStart : Bool) (left : Option (SetOperation × ClassPart)) (parts : List ClassPart) :
    Twin (classInside n atStart left parts) (fun tail => classInside (fuel tail) atStart left parts)
      text := by
  induction n generalizing fuel text atStart left parts with
  | zero => exact absurd enough (Nat.not_lt_zero _)
  | succ n ih =>
    obtain ⟨less, rfl⟩ : ∃ less : List Char → Nat, fuel = fun tail => less tail + 1 :=
      ⟨fun tail => fuel tail - 1, funext fun tail =>
        (Nat.sub_add_cancel (Nat.one_le_of_lt (enough' tail))).symm⟩
    refine (steady_skipBlanks.twin text).bind fun _ => twin_classNext
      (fun {c rest} suffix atStart left parts => ih less rest ?_ (fun tail => ?_) atStart left parts)
      (shrinks_classInside n) fun tail => shrinks_classInside (less tail)
    · have shorter := suffix.length_le
      rw [List.length_cons] at shorter
      omega
    · have shorter := suffix.length_le
      have more : text.length + 1 + tail.length < less tail + 1 := enough' tail
      rw [List.length_cons] at shorter
      omega

theorem eager_bracket : Eager bracket := by
  have shrinks (fuel : Nat) (negated : Bool) :
      (classInside fuel true none [] >>= closeClass negated).Shrinks :=
    (shrinks_classInside fuel _ _ _).bind fun _ => (steady_closeClass negated _).shrinks
  refine ⟨⟨fun r => eager_openClass.shrinks.bind (shrinks _) r, fun r nonempty => ?_⟩,
    fun r => eager_openClass.reads.bind (shrinks _) r⟩
  obtain ⟨c, text, ahead⟩ := List.exists_cons_of_ne_nil nonempty
  have inside (negated : Bool) : Twin
      (classInside (r.rest.length + 1) true none [] >>= closeClass negated)
      (fun tail => classInside ((r.rest ++ ')' :: tail).length + 1) true none [] >>= closeClass negated)
      text := by
    refine Twin.bind (twin_classInside _ _ text ?_ (fun tail => ?_) true none []) fun part =>
      (steady_closeClass negated part).twin text
    · rw [ahead, List.length_cons]
      omega
    · simp only [ahead, List.length_cons, List.length_append]
      omega
  exact Parallel.of_eq (m := bracket) ((eager_openClass.whenClosed r nonempty).twin
    (eager_openClass.reads.leaves ahead) inside) (List.suffix_refl _) rfl fun _ => rfl

end Reading

end ExprScript.Pattern
