import ExprScript.Pattern.Syntax.Escape
import ExprScript.Proofs.Pattern.Closing

/-!
# Escapes with a closing parenthesis behind

An escape that is cut off takes the parenthesis in. The only one that may stop in front of what it
has seen is a word boundary with an opening brace behind it, which is then left for a repetition
count; with the parenthesis behind the brace, no count can be read.
-/

namespace ExprScript.Pattern.Reading

variable {r r' : Reader}

theorem steady_wordSet : Steady wordSet :=
  steady_flags.bind fun _ => steady_pure _

theorem steady_withCase (set : CharSet) : Steady (withCase set) := by
  refine steady_flags.bind fun flags => ?_
  split
  · exact steady_pure _
  · exact steady_pure _

theorem steady_complementIf (negated : Bool) (set : CharSet) : Steady (complementIf negated set) := by
  cases negated with
  | false => exact steady_pure set
  | true => exact steady_flags.bind fun _ => (steady_require _).bind fun _ => steady_pure _

/-- The character that the digits of a code stand for. -/
def codedCharacter (digitCount : Nat) (braced : Bool) (digits : List Char) : Reading Char := do
  match Text.hexCharacter? digits with
  | some c =>
    require (braced || digitCount != 2 || (← flags).unicode || c.toNat < 0x80)
    return c
  | none => failure

theorem steady_codedCharacter (digitCount : Nat) (braced : Bool) (digits : List Char) :
    Steady (codedCharacter digitCount braced digits) := by
  unfold codedCharacter
  split
  · exact steady_flags.bind fun _ => (steady_require _).bind fun _ => steady_pure _
  · exact steady_failure

theorem eager_codeEscape (digitCount : Nat) : Eager (codeEscape digitCount) := by
  refine eager_advance.bind fun _ => Steady.sees_bind (by decide) ?_ ?_
  · exact (eager_drop.bind fun _ => steady_upToBrace.bind
      (steady_codedCharacter digitCount true)).toAhead
  · exact (steady_take digitCount).bind (steady_codedCharacter digitCount false)

theorem eager_classEscape (kind : CharClass) (negated : Bool) : Eager (classEscape kind negated) :=
  eager_drop.bind fun _ => steady_flags.bind fun _ => steady_complementIf negated _

/-- The set of a property with a name; `c` is what the name starts with. -/
def propertySet (negated : Bool) (c : Char) (name : List Char) : Reading CharSet := do
  require (c != '\\' && (← flags).unicode)
  match namedSet? name with
  | some set => complementIf negated (← withCase set)
  | none => failure

theorem steady_propertySet (negated : Bool) (c : Char) (name : List Char) :
    Steady (propertySet negated c name) := by
  refine steady_flags.bind fun _ => (steady_require _).bind fun _ => ?_
  split
  · exact (steady_withCase _).bind fun _ => steady_complementIf negated _
  · exact steady_failure

theorem eager_propertyEscape (negated : Bool) : Eager (propertyEscape negated) := by
  refine eager_advance.bind fun _ => Steady.peek_bind fun c => ?_
  split
  · exact eager_drop.bind fun _ => steady_upToBrace.bind (steady_propertySet negated c)
  · exact eager_advance.bind fun _ => (steady_pure [c]).bind (steady_propertySet negated c)

/-- An opening brace is ahead that no count follows, or one that is closed behind the parenthesis. -/
def Braced (r : Reader) (tail : List Char) : Prop :=
  r.rest.head? = some '{' ∧
    ∃ r', advance r = some ((), r') ∧ (r'.rest.head? = some ')' ∨ r'.rest <:+ tail)

/-- The parenthesis was read, or a brace in front of it was left. -/
def passedOrBraced {α : Type} : Passing α := fun a r tail => passed a r tail ∨ Braced r tail

/-- The name of a word boundary, with the brace that closes it. -/
def edgeName : Reading WordEdge := do
  match namedEdges.lookup (String.ofList (← upToBrace)) with
  | some edge => return edge
  | none => failure

theorem steady_edgeName : Steady edgeName := by
  refine steady_upToBrace.bind fun name => ?_
  split
  · exact steady_pure _
  · exact steady_failure

/-- What follows the brace behind `\b`. -/
def boundaryKind (start : Reader) : Reading WordEdge := do
  let c ← peek
  if !(c.isAlpha || c == '-') then
    set start
    return .boundary
  edgeName

theorem boundaryEscape_eq : boundaryEscape r =
    if r.rest.head? = some '{' then (advance >>= fun _ => boundaryKind r) r
    else some (.boundary, r) := by
  change (if (!(r.rest.head? == some '{')) = true then pure WordEdge.boundary
    else get >>= fun start => advance >>= fun _ => boundaryKind start) r = _
  by_cases braced : r.rest.head? = some '{'
  · rw [if_pos braced, if_neg (by simp [braced])]
    rfl
  · rw [if_neg braced, if_pos (by simp [braced])]
    rfl

theorem boundaryEscape_braced (braced : r.rest.head? = some '{')
    (passes : advance r = some ((), r')) : boundaryEscape r = boundaryKind r r' := by
  rw [boundaryEscape_eq, if_pos braced, bind_of_some passes]

theorem boundaryKind_eq {start : Reader} {c : Char} {tail : List Char} (ahead : r.rest = c :: tail) :
    boundaryKind start r =
      if c.isAlpha || c == '-' then edgeName r else some (.boundary, start) := by
  have found : peek r = some (c, r) := peek_eq_some.2 ⟨rfl, tail, ahead⟩
  rw [boundaryKind, bind_of_some found]
  cases c.isAlpha || c == '-' <;> rfl

theorem boundaryKind_nil {start : Reader} (ended : r.rest = []) : boundaryKind start r = none := by
  refine bind_of_none (Option.eq_none_iff_forall_ne_some.2 fun ⟨c, r'⟩ found => ?_)
  obtain ⟨-, tail, ahead⟩ := peek_eq_some.1 found
  simp [ended] at ahead

theorem head?_extend {c : Char} (ahead : r.rest.head? = some c) (behind : List Char) :
    (r.extend behind).rest.head? = some c := by
  rw [Reader.rest_extend, List.head?_append, ahead, Option.some_or]

/-- With the brace passed over in the text, the name behind it is read or the brace is left. -/
theorem whenClosed_boundary_along (braced : r.rest.head? = some '{')
    (alone : advance r = some ((), r')) (suffix : r'.rest <:+ r.rest)
    (closed : ∀ tail, advance (r.extend (')' :: tail)) = some ((), r'.extend (')' :: tail))) :
    WhenClosed passedOrBraced boundaryEscape r := by
  have here : boundaryEscape r = boundaryKind r r' := boundaryEscape_braced braced alone
  have there (tail : List Char) : boundaryEscape (r.extend (')' :: tail)) =
      boundaryKind (r.extend (')' :: tail)) (r'.extend (')' :: tail)) :=
    boundaryEscape_braced (head?_extend braced _) (closed tail)
  cases rest : r'.rest with
  | nil =>
    refine .past (fun tail edge r'' read => ?_) fun edge r'' read => ?_
    · have sees : (r'.extend (')' :: tail)).rest = ')' :: tail := by simp [rest]
      rw [there, boundaryKind_eq sees] at read
      cases read
      exact .inr ⟨head?_extend braced _, _, closed tail, .inl (by rw [sees, List.head?_cons])⟩
    · rw [here, boundaryKind_nil rest] at read
      cases read
  | cons c text =>
    have sees (tail : List Char) :
        (r'.extend (')' :: tail)).rest = c :: (text ++ ')' :: tail) := by simp [rest]
    cases begins : c.isAlpha || c == '-' with
    | true =>
      refine Parallel.of_eq ((steady_edgeName r').mono fun _ _ _ => .inl) suffix ?_ fun tail => ?_
      · rw [here, boundaryKind_eq rest, if_pos begins]
      · rw [there, boundaryKind_eq (sees tail), if_pos begins]
    | false =>
      refine .along .boundary r ?_ (List.suffix_refl _) fun tail => ?_
      · rw [here, boundaryKind_eq rest, begins]
        rfl
      · rw [there, boundaryKind_eq (sees tail), begins]
        rfl

/-- With a comment behind the brace that takes the parenthesis in, nothing is left for a name. -/
theorem whenClosed_boundary_past (braced : r.rest.head? = some '{')
    (closed : ∀ tail r', advance (r.extend (')' :: tail)) = some ((), r') → r'.rest <:+ tail)
    (comment : ∀ r', advance r = some ((), r') → r'.rest = []) :
    WhenClosed passedOrBraced boundaryEscape r := by
  refine .past (fun tail edge r' read => ?_) fun edge r' read => ?_
  · rw [boundaryEscape_eq, if_pos (head?_extend braced _)] at read
    obtain ⟨_, r'', passes, next⟩ := bind_eq_some.1 read
    have gone := closed tail r'' passes
    cases rest : r''.rest with
    | nil =>
      rw [boundaryKind_nil rest] at next
      cases next
    | cons c text =>
      rw [boundaryKind_eq rest] at next
      split at next
      · exact .inl ((steady_edgeName.shrinks _ _ _ next).trans gone)
      · cases next
        exact .inr ⟨head?_extend braced _, r'', passes, .inr gone⟩
  · rw [boundaryEscape_eq, if_pos braced] at read
    obtain ⟨_, r'', passes, next⟩ := bind_eq_some.1 read
    rw [boundaryKind_nil (comment r'' passes)] at next
    cases next

theorem whenClosed_boundaryEscape (r : Reader) : WhenClosed passedOrBraced boundaryEscape r := by
  by_cases braced : r.rest.head? = some '{'
  · obtain ⟨tail, ahead⟩ := List.head?_eq_some_iff.1 braced
    cases eager_advance.whenClosed r (by simp [ahead]) with
    | along _ r' alone suffix closed => exact whenClosed_boundary_along braced alone suffix closed
    | past closed comment =>
      exact whenClosed_boundary_past braced (fun tail r' => closed tail () r')
        fun r' passes => (comment () r' passes).1
  · refine .along .boundary r ?_ (List.suffix_refl _) fun tail => ?_
    · rw [boundaryEscape_eq, if_neg braced]
    · rw [boundaryEscape_eq, if_neg]
      cases ahead : r.rest <;> simp_all

/-- What an escaped sign is read as, once it is passed over. -/
def lookSign : Char → Reading Look
  | 'A' => return .textStart
  | 'z' => return .textStop
  | 'b' => return .word (← boundaryEscape) (← wordSet)
  | 'B' => return .word .inside (← wordSet)
  | '<' => return .word .start (← wordSet)
  | '>' => return .word .stop (← wordSet)
  | _ => failure

theorem whenClosed_lookSign (c : Char) (r : Reader) : WhenClosed passedOrBraced (lookSign c) r := by
  have word (edge : WordEdge) : Steady (wordSet >>= fun words => pure (Look.word edge words)) :=
    steady_wordSet.bind fun _ => steady_pure _
  have steady {m : Reading Look} (h : Steady m) : WhenClosed passedOrBraced m r :=
    (h r).mono fun _ _ _ => .inl
  unfold lookSign
  split
  · exact steady (steady_pure _)
  · exact steady (steady_pure _)
  · refine Parallel.bind (whenClosed_boundaryEscape r)
      (fun edge r' _ => (word edge r').mono fun _ _ _ => .inl) (fun edge => (word edge).shrinks)
      (fun edge r' tail look r'' past read => ?_) fun _ _ _ _ _ => rfl
    cases read
    exact past
  · exact steady (word .inside)
  · exact steady (word .start)
  · exact steady (word .stop)
  · exact steady steady_failure

theorem shrinks_lookSign (c : Char) : (lookSign c).Shrinks :=
  shrinks_of_parallel (whenClosed_lookSign c)

theorem lookEscape_eq (c : Char) : lookEscape c = drop 1 >>= fun _ => lookSign c := rfl

/-- What an escape is read as by the sign behind its backslash, which is ahead. -/
def signEscape (c : Char) : Reading Escape :=
  match c with
  | 'x' => return .literal (← codeEscape 2)
  | 'u' => return .literal (← codeEscape 4)
  | 'U' => return .literal (← codeEscape 8)
  | 'p' => return .set (← propertyEscape false)
  | 'P' => return .set (← propertyEscape true)
  | _ => do
    if let some kind := CharClass.ofLetter? c then
      return .set (← classEscape kind c.isUpper)
    else if isEscapable c then
      drop 1
      return .literal c
    else if let some literal := controlEscapes.lookup c then
      drop 1
      return .literal literal
    else
      return .look (← lookEscape c)

theorem escape_eq : escape = drop 1 >>= fun _ => peek >>= signEscape := rfl

/-- The parenthesis was read, or a brace was left behind a word boundary. -/
def passedOrLook : Passing Escape :=
  fun e r tail => passed e r tail ∨ (∃ look, e = .look look) ∧ Braced r tail

/-- What a sign is read as: something that takes a parenthesis in, or a condition. -/
theorem signEscape_cases (c : Char) :
    Eager (signEscape c) ∨ signEscape c = lookEscape c >>= fun look => pure (.look look) := by
  unfold signEscape
  split
  · exact .inl ((eager_codeEscape 2).bind fun _ => steady_pure _)
  · exact .inl ((eager_codeEscape 4).bind fun _ => steady_pure _)
  · exact .inl ((eager_codeEscape 8).bind fun _ => steady_pure _)
  · exact .inl ((eager_propertyEscape false).bind fun _ => steady_pure _)
  · exact .inl ((eager_propertyEscape true).bind fun _ => steady_pure _)
  · split
    · exact .inl ((eager_classEscape _ _).bind fun _ => steady_pure _)
    · split
      · exact .inl (eager_drop.bind fun _ => steady_pure _)
      · split
        · exact .inl (eager_drop.bind fun _ => steady_pure _)
        · exact .inr rfl

theorem shrinks_signEscape (c : Char) : (signEscape c).Shrinks := by
  rcases signEscape_cases c with eager | look
  · exact eager.shrinks
  · rw [look, lookEscape_eq]
    exact (eager_drop.shrinks.bind fun _ => shrinks_lookSign c).bind fun _ => (steady_pure _).shrinks

theorem reads_escape : Reads escape :=
  eager_drop.reads.bind fun _ => shrinks_peek.bind shrinks_signEscape

theorem whenClosed_signEscape (c : Char) (ahead : r.rest ≠ []) :
    WhenClosed passedOrLook (signEscape c) r := by
  rcases signEscape_cases c with eager | look
  · exact (eager.whenClosed r ahead).mono fun _ _ _ => .inl
  · rw [look, lookEscape_eq]
    have sign : WhenClosed passedOrBraced (drop 1 >>= fun _ => lookSign c) r :=
      WhenClosed.next (eager_drop.whenClosed r ahead) (fun _ r' _ => whenClosed_lookSign c r')
        (fun _ => shrinks_lookSign c) fun _ _ _ => .inl
    refine Parallel.bind sign
      (fun look r' _ => (steady_pure (Escape.look look) r').mono fun _ _ _ => Or.inl)
      (fun look => (steady_pure _).shrinks) (fun look r' tail e r'' past read => ?_)
      fun _ _ _ _ _ => rfl
    cases read
    exact past.imp id fun braced => ⟨⟨look, rfl⟩, braced⟩

theorem whenClosed_escape (ahead : r.rest ≠ []) : WhenClosed passedOrLook escape r := by
  have closing : Eager (signEscape ')') := eager_drop.bind fun _ => steady_pure (Escape.literal ')')
  rw [escape_eq]
  refine WhenClosed.next (eager_drop.whenClosed r ahead) (fun _ r' _ => ?_)
    (fun _ => shrinks_peek.bind shrinks_signEscape) fun _ _ _ => .inl
  refine WhenClosed.peek_bind shrinks_signEscape (fun ended tail e r'' read => ?_)
    fun c tail ahead => whenClosed_signEscape c (by simp [ahead])
  exact .inl (closing.reads _ e r'' ')' tail (by simp [ended]) read)

end ExprScript.Pattern.Reading
