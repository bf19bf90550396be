import Mathlib.Data.List.Infix
import ExprScript.Pattern.Syntax.Reader

/-!
# Patterns with a closing parenthesis behind

A pattern is read from left to right, so a closing parenthesis behind it mostly changes nothing about
what is read in front of it. It does when it is read as a part of the pattern itself, because an
escape, a class or a group was still open, and when it belongs to a comment. In the first case the
pattern is not valid by itself, and the parenthesis is gone in both.
-/

namespace ExprScript.Pattern

/-- The reader of a text that goes on behind. -/
def Reader.extend (r : Reader) (behind : List Char) : Reader := { r with rest := r.rest ++ behind }

@[simp]
theorem Reader.rest_extend (r : Reader) (behind : List Char) :
    (r.extend behind).rest = r.rest ++ behind := rfl

namespace Reading

variable {α β : Type} {m : Reading α} {f : α → Reading β} {r r' r'' : Reader} {a : α} {b : β}

theorem bind_eq_some :
    (m >>= f) r = some (b, r'') ↔ ∃ a r', m r = some (a, r') ∧ f a r' = some (b, r'') := by
  change Option.bind (m r) (fun x => f x.1 x.2) = _ ↔ _
  rw [Option.bind_eq_some_iff]
  simp only [Prod.exists]

theorem bind_of_some (h : m r = some (a, r')) : (m >>= f) r = f a r' := by
  change Option.bind (m r) (fun x => f x.1 x.2) = _
  rw [h]
  rfl

theorem bind_of_none (h : m r = none) : (m >>= f) r = none := by
  change Option.bind (m r) (fun x => f x.1 x.2) = _
  rw [h]
  rfl

/-- A reading that goes on where the text it read ends. -/
def Shrinks (m : Reading α) : Prop := ∀ r a r', m r = some (a, r') → r'.rest <:+ r.rest

/-- What is to be said of a reading that went past the parenthesis: what it gave, where it stopped,
and what stood behind the parenthesis. -/
abbrev Passing (α : Type) := α → Reader → List Char → Prop

/-- The parenthesis was read, and maybe more. -/
def passed : Passing α := fun _ r tail => r.rest <:+ tail

/-- How a reading goes on a text alone, and another on the text with a closing parenthesis and more
behind. -/
inductive Parallel (past : Passing α) (m : Reading α) (m' : List Char → Reading α) (r : Reader) :
    Prop where
  /-- Both stop in front of the parenthesis, and read the same. -/
  | along (a : α) (r' : Reader) (alone : m r = some (a, r')) (suffix : r'.rest <:+ r.rest)
      (closed : ∀ tail, m' tail (r.extend (')' :: tail)) = some (a, r'.extend (')' :: tail)))
  /-- The second goes past the parenthesis, unless it fails. If the first is successful, it ends in a
  comment, and the second goes on in the comment to the end of the line. -/
  | past (closed : ∀ tail a r', m' tail (r.extend (')' :: tail)) = some (a, r') → past a r' tail)
      (comment : ∀ a r', m r = some (a, r') → r'.rest = [] ∧
        ∀ tail, '\n' ∉ tail → m' tail (r.extend (')' :: tail)) = some (a, r'))

/-- How one reading goes without and with a closing parenthesis behind. -/
abbrev WhenClosed (past : Passing α) (m : Reading α) (r : Reader) : Prop :=
  Parallel past m (fun _ => m) r

/-- A reading that is cut short by a parenthesis or goes past it, whatever there is to read. -/
def Steady (m : Reading α) : Prop := ∀ r, WhenClosed passed m r

/-- A reading that passes over the character ahead. -/
def Reads (m : Reading α) : Prop :=
  ∀ r a r' c tail, r.rest = c :: tail → m r = some (a, r') → r'.rest <:+ tail

/-- A steady reading that is begun only when there is something to read. -/
structure Ahead (m : Reading α) : Prop where
  shrinks : m.Shrinks
  whenClosed : ∀ r, r.rest ≠ [] → WhenClosed passed m r

/-- Such a reading that reads something. -/
structure Eager (m : Reading α) : Prop extends Ahead m where
  reads : m.Reads

/-- Readings that do what parallel ones do further on. -/
theorem Parallel.of_eq {past : Passing α} {n : Reading α} {m' n' : List Char → Reading α}
    (h : Parallel past n n' r') (suffix : r'.rest <:+ r.rest) (alone : m r = n r')
    (closed : ∀ tail, m' tail (r.extend (')' :: tail)) = n' tail (r'.extend (')' :: tail))) :
    Parallel past m m' r := by
  cases h with
  | along a r'' alone' suffix' closed' =>
    refine .along a r'' (alone.trans alone') (suffix'.trans suffix) fun tail => ?_
    rw [closed, closed']
  | past closed' comment =>
    refine .past (fun tail a r'' read => ?_) fun a r'' read => ?_
    · rw [closed] at read
      exact closed' tail a r'' read
    · rw [alone] at read
      refine ⟨(comment a r'' read).1, fun tail oneLine => ?_⟩
      rw [closed, (comment a r'' read).2 tail oneLine]

theorem Parallel.mono {past past' : Passing α} {m' : List Char → Reading α}
    (h : Parallel past m m' r) (weaker : ∀ a r' tail, past a r' tail → past' a r' tail) :
    Parallel past' m m' r := by
  cases h with
  | along a r' alone suffix closed => exact .along a r' alone suffix closed
  | past closed comment =>
    exact .past (fun tail a r' read => weaker a r' tail (closed tail a r' read)) comment

theorem shrinks_of_parallel {past : Passing α} {m' : List Char → Reading α}
    (h : ∀ r, Parallel past m m' r) : m.Shrinks := by
  intro r a r' read
  cases h r with
  | along a' r'' alone suffix closed =>
    rw [alone] at read
    cases read
    exact suffix
  | past closed comment =>
    rw [(comment a r' read).1]
    exact List.nil_suffix

theorem Steady.shrinks (h : m.Steady) : m.Shrinks := shrinks_of_parallel h

theorem Steady.ahead (h : m.Steady) : m.Ahead := ⟨h.shrinks, fun r _ => h r⟩

theorem Shrinks.bind (h : m.Shrinks) (h' : ∀ a, (f a).Shrinks) : (m >>= f).Shrinks := by
  intro r b r'' read
  obtain ⟨a, r', first, second⟩ := bind_eq_some.1 read
  exact (h' a r' b r'' second).trans (h r a r' first)

theorem Reads.bind (h : m.Reads) (h' : ∀ a, (f a).Shrinks) : (m >>= f).Reads := by
  intro r b r'' c tail ahead read
  obtain ⟨a, r', first, second⟩ := bind_eq_some.1 read
  exact (h' a r' b r'' second).trans (h r a r' c tail ahead first)

/-- What is read behind parallel readings keeps in front of the parenthesis or past it. At the end
of a comment both have to go on in the same way. -/
theorem Parallel.bind {past : Passing α} {past' : Passing β} {m' : List Char → Reading α}
    {f' : List Char → α → Reading β} (h : Parallel past m m' r)
    (next : ∀ a r', m r = some (a, r') → Parallel past' (f a) (fun tail => f' tail a) r')
    (shrinks : ∀ a, (f a).Shrinks)
    (keeps : ∀ a r' tail b r'', past a r' tail → f' tail a r' = some (b, r'') → past' b r'' tail)
    (ended : ∀ a r' tail, m r = some (a, r') → r'.rest = [] → f' tail a r' = f a r') :
    Parallel past' (m >>= f) (fun tail => m' tail >>= f' tail) r := by
  cases h with
  | along a r' alone suffix closed =>
    cases next a r' alone with
    | along b r'' alone' suffix' closed' =>
      refine .along b r'' ?_ (suffix'.trans suffix) fun tail => ?_
      · rw [bind_of_some alone, alone']
      · rw [bind_of_some (closed tail), closed' tail]
    | past closed' comment =>
      refine .past (fun tail b r'' read => ?_) fun b r'' read => ?_
      · rw [bind_of_some (closed tail)] at read
        exact closed' tail b r'' read
      · rw [bind_of_some alone] at read
        refine ⟨(comment b r'' read).1, fun tail oneLine => ?_⟩
        rw [bind_of_some (closed tail)]
        exact (comment b r'' read).2 tail oneLine
  | past closed comment =>
    refine .past (fun tail b r'' read => ?_) fun b r'' read => ?_
    · obtain ⟨a, r', first, second⟩ := bind_eq_some.1 read
      exact keeps a r' tail b r'' (closed tail a r' first) second
    · obtain ⟨a, r', first, second⟩ := bind_eq_some.1 read
      obtain ⟨empty, quiet⟩ := comment a r' first
      refine ⟨List.suffix_nil.1 (empty ▸ shrinks a r' b r'' second), fun tail oneLine => ?_⟩
      rw [bind_of_some (quiet tail oneLine), ended a r' tail first empty, second]

theorem WhenClosed.next {past : Passing β} (h : WhenClosed passed m r)
    (next : ∀ a r', m r = some (a, r') → WhenClosed past (f a) r')
    (shrinks : ∀ a, (f a).Shrinks)
    (keeps : ∀ b r' tail, passed b r' tail → past b r' tail) : WhenClosed past (m >>= f) r :=
  Parallel.bind h next shrinks
    (fun a r' tail b r'' gone read => keeps b r'' tail ((shrinks a r' b r'' read).trans gone))
    fun _ _ _ _ _ => rfl

theorem WhenClosed.bind (h : WhenClosed passed m r)
    (next : ∀ a r', m r = some (a, r') → WhenClosed passed (f a) r')
    (shrinks : ∀ a, (f a).Shrinks) : WhenClosed passed (m >>= f) r :=
  h.next next shrinks fun _ _ _ gone => gone

theorem Steady.bind (h : m.Steady) (h' : ∀ a, (f a).Steady) : (m >>= f).Steady :=
  fun r => WhenClosed.bind (h r) (fun a r' _ => h' a r') fun a => (h' a).shrinks

theorem Ahead.bind (h : m.Ahead) (h' : ∀ a, (f a).Steady) : (m >>= f).Ahead :=
  ⟨h.shrinks.bind fun a => (h' a).shrinks,
    fun r ahead => WhenClosed.bind (h.whenClosed r ahead) (fun a r' _ => h' a r')
      fun a => (h' a).shrinks⟩

theorem Eager.bind (h : m.Eager) (h' : ∀ a, (f a).Steady) : (m >>= f).Eager :=
  ⟨h.toAhead.bind h', h.reads.bind fun a => (h' a).shrinks⟩

/-- No more than `text` is left behind the reading. -/
def Leaves (m : Reading α) (r : Reader) (text : List Char) : Prop :=
  ∀ a r', m r = some (a, r') → r'.rest <:+ text

theorem Leaves.bind {text : List Char} (h : m.Leaves r text) (h' : ∀ a, (f a).Shrinks) :
    (m >>= f).Leaves r text := by
  intro b r'' read
  obtain ⟨a, r', first, second⟩ := bind_eq_some.1 read
  exact (h' a r' b r'' second).trans (h a r' first)

theorem Reads.leaves (h : m.Reads) {c : Char} {text : List Char} (ahead : r.rest = c :: text) :
    m.Leaves r text :=
  fun a r' read => h r a r' c text ahead read

/-- Two readings that are parallel wherever no more than `text` is left to read, and the same at the
end. -/
structure Twin (m : Reading α) (m' : List Char → Reading α) (text : List Char) : Prop where
  shrinks : m.Shrinks
  shrinks' : ∀ tail, (m' tail).Shrinks
  ended : ∀ tail r, r.rest = [] → m' tail r = m r
  parallel : ∀ r, r.rest <:+ text → Parallel passed m m' r

theorem Steady.twin (h : m.Steady) (text : List Char) : Twin m (fun _ => m) text :=
  ⟨h.shrinks, fun _ => h.shrinks, fun _ _ _ => rfl, fun r _ => h r⟩

theorem Parallel.twin {m' : List Char → Reading α} {f' : List Char → α → Reading β}
    {text : List Char} (h : Parallel passed m m' r)
    (shorter : m.Leaves r text) (next : ∀ a, Twin (f a) (fun tail => f' tail a) text) :
    Parallel passed (m >>= f) (fun tail => m' tail >>= f' tail) r :=
  Parallel.bind h (fun a r' read => (next a).parallel r' (shorter a r' read))
    (fun a => (next a).shrinks)
    (fun a r' tail b r'' gone read => ((next a).shrinks' tail r' b r'' read).trans gone)
    fun a r' tail _ empty => (next a).ended tail r' empty

theorem Twin.bind {m' : List Char → Reading α} {f' : List Char → α → Reading β} {text : List Char}
    (h : Twin m m' text) (next : ∀ a, Twin (f a) (fun tail => f' tail a) text) :
    Twin (m >>= f) (fun tail => m' tail >>= f' tail) text where
  shrinks := h.shrinks.bind fun a => (next a).shrinks
  shrinks' tail := (h.shrinks' tail).bind fun a => (next a).shrinks' tail
  ended tail r empty := by
    have same := h.ended tail r empty
    cases read : m r with
    | none => rw [bind_of_none read, bind_of_none (same.trans read)]
    | some result =>
      obtain ⟨a, r'⟩ := result
      have empty' : r'.rest = [] := List.suffix_nil.1 (empty ▸ h.shrinks r a r' read)
      rw [bind_of_some read, bind_of_some (same.trans read)]
      exact (next a).ended tail r' empty'
  parallel r inside := (h.parallel r inside).twin
    (fun a r' read => (h.shrinks r a r' read).trans inside) next

/-! ### Readings that stay where they are -/

/-- A reading that stays where it is and does not look ahead. -/
theorem whenClosed_still {past : Passing α} (alone : m r = some (a, r'))
    (same : r'.rest = r.rest) (closed : ∀ behind, m (r.extend behind) = some (a, r'.extend behind)) :
    WhenClosed past m r :=
  .along a r' alone (same ▸ List.suffix_refl _) fun tail => closed (')' :: tail)

theorem whenClosed_failing {past : Passing α} (h : ∀ r, m r = none) : WhenClosed past m r :=
  .past (fun _ a r' read => by simp [h] at read) fun a r' read => by simp [h] at read

theorem steady_pure (a : α) : Steady (pure a) := fun r =>
  whenClosed_still (show (pure a : Reading α) r = some (a, r) from rfl) rfl fun _ => rfl

theorem steady_failure : Steady (failure : Reading α) :=
  fun _ => whenClosed_failing fun _ => rfl

theorem steady_require (condition : Bool) : Steady (require condition) := by
  cases condition with
  | true => exact steady_pure ()
  | false => exact steady_failure

theorem steady_flags : Steady flags := fun r =>
  whenClosed_still (show flags r = some (r.flags, r) from rfl) rfl fun _ => rfl

theorem steady_setFlags (flags : Flags) : Steady (setFlags flags) := fun r =>
  whenClosed_still (show setFlags flags r = some ((), { r with flags }) from rfl) rfl fun _ => rfl

/-! ### Single signs -/

theorem whenClosed_drop {past : Passing Unit} {count : Nat} (enough : count ≤ r.rest.length) :
    WhenClosed past (drop count) r := by
  refine .along () { r with rest := r.rest.drop count } rfl (List.drop_suffix _ _) fun tail => ?_
  change some ((), { r with rest := (r.rest ++ ')' :: tail).drop count }) = _
  rw [List.drop_append_of_le_length enough]
  rfl

theorem shrinks_drop (count : Nat) : (drop count).Shrinks := by
  rintro r _ r' ⟨⟩
  exact List.drop_suffix _ _

theorem eager_drop : Eager (drop 1) := by
  refine ⟨⟨shrinks_drop 1, fun r ahead => whenClosed_drop ?_⟩, ?_⟩
  · exact List.length_pos_of_ne_nil ahead
  · rintro r _ r' c tail ahead ⟨⟩
    simp [ahead]

theorem peek_eq_some {c : Char} : peek r = some (c, r') ↔ r' = r ∧ ∃ tail, r.rest = c :: tail := by
  obtain ⟨text, flags, names⟩ := r
  cases text with
  | nil => exact ⟨nofun, fun ⟨_, _, listed⟩ => nomatch listed⟩
  | cons c' tail =>
    constructor
    · rintro ⟨⟩
      exact ⟨rfl, tail, rfl⟩
    · rintro ⟨rfl, _, ⟨⟩⟩
      rfl

theorem shrinks_peek : peek.Shrinks := by
  intro r c r' found
  rw [(peek_eq_some.1 found).1]

/-- With nothing ahead, the parenthesis is peeked at. -/
theorem WhenClosed.peek_bind {past : Passing β} {f : Char → Reading β} (shrinks : ∀ c, (f c).Shrinks)
    (ended : r.rest = [] → ∀ tail b r', f ')' (r.extend (')' :: tail)) = some (b, r') → past b r' tail)
    (ahead : ∀ c tail, r.rest = c :: tail → WhenClosed past (f c) r) :
    WhenClosed past (peek >>= f) r := by
  cases split : r.rest with
  | nil =>
    refine .past (fun tail b r' read => ?_) fun b r' read => ?_
    · obtain ⟨c, _, found, next⟩ := bind_eq_some.1 read
      obtain ⟨rfl, more, here⟩ := peek_eq_some.1 found
      rw [Reader.rest_extend, split] at here
      cases here
      exact ended split tail b r' next
    · obtain ⟨c, _, found, -⟩ := bind_eq_some.1 read
      obtain ⟨-, more, here⟩ := peek_eq_some.1 found
      simp [split] at here
  | cons c tail =>
    have found : peek r = some (c, r) := peek_eq_some.2 ⟨rfl, tail, split⟩
    have stays : WhenClosed (fun _ _ _ => False) peek r :=
      .along c r found (List.suffix_refl _) fun more =>
        peek_eq_some.2 ⟨rfl, tail ++ ')' :: more, by simp [split]⟩
    refine Parallel.bind stays (fun c' r' here => ?_) shrinks
      (fun _ _ _ _ _ gone => absurd gone id) fun _ _ _ _ _ => rfl
    rw [found] at here
    cases here
    exact ahead c tail split

theorem Reads.peek_bind {f : Char → Reading β} (h : ∀ c, (f c).Reads) : (peek >>= f).Reads := by
  intro r b r' c tail ahead read
  obtain ⟨c', _, found, next⟩ := bind_eq_some.1 read
  obtain ⟨rfl, -⟩ := peek_eq_some.1 found
  exact h c' _ b r' c tail ahead next

/-- What is peeked at and then read may be the parenthesis, with nothing ahead of it. -/
theorem Steady.peek_bind {f : Char → Reading β} (h : ∀ c, (f c).Eager) : (peek >>= f).Steady := by
  intro r
  refine WhenClosed.peek_bind (fun c => (h c).shrinks) (fun empty tail b r' read => ?_)
    fun c tail ahead => (h c).whenClosed r (by simp [ahead])
  exact (h ')').reads _ b r' ')' tail (by simp [empty]) read

theorem Eager.peek_bind {f : Char → Reading β} (h : ∀ c, (f c).Eager) : (peek >>= f).Eager :=
  ⟨(Steady.peek_bind h).ahead, Reads.peek_bind fun c => (h c).reads⟩

theorem sees_eq {c : Char} : sees c r = some (r.rest.head? == some c, r) := rfl

/-- A sign other than the parenthesis is ahead where it is ahead without the parenthesis. -/
theorem Steady.sees_bind {c : Char} {f : Bool → Reading β} (other : c ≠ ')')
    (yes : (f true).Ahead) (no : (f false).Steady) : (sees c >>= f).Steady := by
  intro r
  have shrinks (found : Bool) : (f found).Shrinks := by
    cases found with
    | true => exact yes.shrinks
    | false => exact no.shrinks
  refine WhenClosed.bind (.along _ r sees_eq (List.suffix_refl _) fun tail => ?_)
    (fun found r' read => ?_) shrinks
  · rw [sees_eq]
    cases ahead : r.rest <;> simp [ahead, other.symm]
  · cases read
    by_cases found : (r.rest.head? == some c) = true
    · rw [found]
      exact yes.whenClosed r fun ended => by simp [ended] at found
    · rw [Bool.not_eq_true] at found
      rw [found]
      exact no r

theorem expect_eq_some {c : Char} :
    expect c r = some ((), r') ↔ ∃ tail, r.rest = c :: tail ∧ r' = { r with rest := tail } := by
  change (if r.rest.head? == some c then drop 1 else failure) r = _ ↔ _
  cases ahead : r.rest with
  | nil => exact ⟨nofun, fun ⟨_, listed, _⟩ => nomatch listed⟩
  | cons c' tail =>
    split
    · rename_i same
      rw [List.head?_cons, beq_iff_eq, Option.some.injEq] at same
      constructor
      · rintro ⟨⟩
        exact ⟨tail, by rw [same], by simp [ahead]⟩
      · rintro ⟨_, split, rfl⟩
        cases split
        change some ((), { r with rest := r.rest.drop 1 }) = _
        rw [ahead]
        rfl
    · rename_i other
      refine ⟨nofun, fun ⟨_, split, _⟩ => absurd ?_ other⟩
      rw [List.head_eq_of_cons_eq split, List.head?_cons, beq_self_eq_true]

/-- The parenthesis itself may be what is expected. -/
theorem steady_expect (c : Char) : Steady (expect c) := by
  have fails {r : Reader} (none : ∀ tail, r.rest ≠ c :: tail) (r' : Reader) :
      expect c r ≠ some ((), r') :=
    fun read => none _ (expect_eq_some.1 read).choose_spec.1
  intro r
  by_cases ahead : ∃ tail, r.rest = c :: tail
  · obtain ⟨tail, ahead⟩ := ahead
    refine .along () { r with rest := tail } (expect_eq_some.2 ⟨tail, ahead, rfl⟩) ?_ fun more => ?_
    · simp [ahead]
    · exact expect_eq_some.2 ⟨tail ++ ')' :: more, by simp [ahead], rfl⟩
  · refine .past (fun tail _ r' read => ?_) fun _ r' read => ?_
    · obtain ⟨behind, split, rfl⟩ := expect_eq_some.1 read
      cases rest : r.rest with
      | nil =>
        rw [Reader.rest_extend, rest] at split
        cases split
        exact List.suffix_refl _
      | cons c' text =>
        rw [Reader.rest_extend, rest] at split
        cases split
        exact absurd ⟨text, rest⟩ ahead
    · exact absurd read (fails (not_exists.1 ahead) r')

/-! ### Runs of characters -/

section

variable (verbose : Bool) (accept : Char → Bool)

theorem span_comment {text : List Char} (oneLine : '\n' ∉ text) :
    span verbose accept true text = ([], []) := by
  induction text with
  | nil => rfl
  | cons c rest ih =>
    rw [List.mem_cons, not_or] at oneLine
    have other : (c != '\n') = true := by simpa using Ne.symm oneLine.1
    rw [span, other]
    exact ih oneLine.2

theorem span_suffix (comment : Bool) (text : List Char) :
    (span verbose accept comment text).2 <:+ text := by
  induction text generalizing comment with
  | nil => simp [span]
  | cons c rest ih =>
    cases comment with
    | true => exact (ih _).trans (List.suffix_cons c rest)
    | false =>
      rw [span]
      split
      · exact (ih false).trans (List.suffix_cons c rest)
      · split
        · exact (ih true).trans (List.suffix_cons c rest)
        · split
          · exact (ih false).trans (List.suffix_cons c rest)
          · exact List.suffix_refl _

/-- A run ends in front of the parenthesis, or it reaches to the end and goes on behind the
parenthesis. In a comment it goes on to the end of the line. -/
theorem span_append (comment : Bool) (text : List Char) :
    (∀ tail, span verbose accept comment (text ++ ')' :: tail) =
        ((span verbose accept comment text).1,
          (span verbose accept comment text).2 ++ ')' :: tail)) ∨
      (span verbose accept comment text).2 = [] ∧
        (∀ tail, (span verbose accept comment (text ++ ')' :: tail)).2 <:+ tail) ∧
        (accept ')' = false → ∀ tail, '\n' ∉ tail →
          span verbose accept comment (text ++ ')' :: tail) = span verbose accept comment text) := by
  induction text generalizing comment with
  | nil =>
    cases comment with
    | true =>
      refine .inr ⟨rfl, fun tail => span_suffix verbose accept true tail, fun _ tail oneLine => ?_⟩
      exact span_comment verbose accept (by simpa using oneLine)
    | false =>
      have plain : Text.isBlank ')' = false := by decide
      cases taken : accept ')' with
      | false => exact .inl fun tail => by simp [span, plain, taken]
      | true =>
        refine .inr ⟨rfl, fun tail => ?_, nofun⟩
        simpa [span, plain, taken] using span_suffix verbose accept false tail
  | cons c rest ih =>
    cases comment with
    | true => exact ih (c != '\n')
    | false =>
      simp only [List.cons_append, span]
      split
      · exact ih false
      · split
        · exact ih true
        · split
          · rcases ih false with along | ⟨ended, past, quiet⟩
            · exact .inl fun tail => by rw [along]
            · refine .inr ⟨ended, past, fun accepted tail oneLine => ?_⟩
              rw [quiet accepted tail oneLine]
          · exact .inl fun _ => rfl

end

theorem takeWhile_eq (accept : Char → Bool) : takeWhile accept r =
    some ((span r.flags.verbose accept false r.rest).1,
      { r with rest := (span r.flags.verbose accept false r.rest).2 }) := rfl

/-- A run that does not accept the parenthesis stops in front of it. -/
theorem steady_takeWhile {accept : Char → Bool} (other : accept ')' = false) :
    Steady (takeWhile accept) := by
  intro r
  rcases span_append r.flags.verbose accept false r.rest with along | ⟨ended, past, quiet⟩
  · refine .along _ _ (takeWhile_eq accept) (span_suffix _ _ _ _) fun tail => ?_
    rw [takeWhile_eq]
    simp only [Reader.extend, along]
  · refine .past (fun tail a r' read => ?_) fun a r' read => ?_
    · cases read
      exact past tail
    · cases read
      refine ⟨ended, fun tail oneLine => ?_⟩
      rw [takeWhile_eq]
      simp only [Reader.extend, quiet other tail oneLine]

theorem steady_skipBlanks : Steady skipBlanks :=
  (steady_takeWhile rfl).bind fun _ => steady_pure ()

theorem eager_advance : Eager advance :=
  eager_drop.bind fun _ => steady_skipBlanks

/-- A brace that is closed behind the parenthesis only takes the parenthesis in. -/
theorem steady_upToBrace : Steady upToBrace := by
  intro r
  have steady (name : List Char) : Steady (expect '}' >>= fun _ => pure name) :=
    (steady_expect '}').bind fun _ => steady_pure name
  rcases span_append r.flags.verbose (· != '}') false r.rest with along | ⟨ended, past, -⟩
  · refine WhenClosed.bind (.along _ _ (takeWhile_eq _) (span_suffix _ _ _ _) fun tail => ?_)
      (fun name r' _ => steady name r') fun name => (steady name).shrinks
    rw [takeWhile_eq]
    simp only [Reader.extend, along]
  · refine .past (fun tail name r' read => ?_) fun name r' read => ?_
    · obtain ⟨run, r'', first, second⟩ := bind_eq_some.1 read
      cases first
      exact ((steady _).shrinks _ _ _ second).trans (past tail)
    · obtain ⟨run, r'', first, second⟩ := bind_eq_some.1 read
      cases first
      obtain ⟨_, _, closed, -⟩ := bind_eq_some.1 second
      obtain ⟨behind, split, -⟩ := expect_eq_some.1 closed
      simp [ended] at split

theorem steady_take (count : Nat) : Steady (take count) := by
  induction count with
  | zero => exact steady_pure []
  | succ count ih =>
    exact Steady.peek_bind fun c => eager_advance.bind fun _ => ih.bind fun _ => steady_pure _

end Reading

end ExprScript.Pattern
