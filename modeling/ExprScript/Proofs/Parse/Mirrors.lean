import ExprScript.Proofs.Parse.Program
import ExprScript.Proofs.Parse.Segments

/-!
# Programs that mirror parsers

A program mirrors a parser on a stream if it runs to the outcome of the parser, and every event of
the run is sound: no end token is taken, a span is extended only to a token that was taken, and a
routine calls itself again only when a token was taken. The steps of a run are counted against the
tokens taken. One rule for each form of program.
-/

namespace ExprScript

variable {α β : Type} {k n : Nat}

/-- What a parser gives or blames, and where it stops. -/
def Parsed.outcome : Parsed α n → Except SyntaxError α × Stream
  | done value rest _ => (.ok value, rest)
  | failed error stop => (.error error, stop)

@[simp] theorem Parsed.outcome_widen (p : Parsed α k) (h : k ≤ n) :
    (p.widen h).outcome = p.outcome := by
  cases p <;> rfl

namespace Stream

variable {base s m r : Stream} {run : List SpannedToken}

/-- Tokens were taken from one stream up to another. -/
def Since (base s : Stream) : Prop := ∃ run, Between base run s

/-- Some token was taken from one stream up to another. -/
def Past (base s : Stream) : Prop := ∃ run t, Between base (run ++ [t]) s

theorem Between.nil (s : Stream) : Between s [] s := ⟨rfl, rfl, List.forall_mem_nil _⟩

theorem Since.refl (s : Stream) : Since s s := ⟨[], .nil s⟩

theorem Past.since (h : Past base s) : Since base s := by
  obtain ⟨run, t, between⟩ := h
  exact ⟨_, between⟩

theorem Since.next (h : Since base s) (inside : s.current.token ≠ .endOfInput) :
    Past base s.next := by
  obtain ⟨run, between⟩ := h
  exact ⟨run, s.current, between.append (.single inside)⟩

theorem Since.on (h : Since base s) (between : Between s run m) : Since base m := by
  obtain ⟨front, before⟩ := h
  exact ⟨_, before.append between⟩

theorem Since.past (h : Since base s) (between : Between s run m) (fewer : m.size < s.size) :
    Past base m := by
  obtain ⟨front, before⟩ := h
  obtain ⟨others, t, rfl⟩ := (List.eq_nil_or_concat' run).resolve_left (between.ne_nil fewer)
  exact ⟨front ++ others, t, by simpa using before.append between⟩

theorem Past.on (h : Past base s) (between : Between s run m) : Past base m := by
  obtain ⟨front, t, before⟩ := h
  rcases List.eq_nil_or_concat' run with rfl | ⟨others, t', rfl⟩
  · exact ⟨front, t, by simpa using before.append between⟩
  · exact ⟨front ++ [t] ++ others, t', by simpa using before.append between⟩

end Stream

/-- Routines of a higher level may call those of a lower one on the stream that they start at. -/
def Routine.level : Routine α → Nat
  | .operand | .joined .. | .moreArguments _ => 0
  | .expression _ => 1
  | .arguments _ | .statement => 2
  | .block _ | .script => 3
  | .unit _ => 4

/-- An event in a run of a routine of the given level that started at the stream `base`. -/
inductive Event.Sound : Nat → Stream → Event → Prop where
  | look {level base} : Sound level base .look
  /-- The end token is not taken. -/
  | take {level base s} :
    Stream.Since base s → s.current.token ≠ .endOfInput → Sound level base (.take s)
  /-- The span to which another one is extended is that of a token taken in this routine. -/
  | extend {level base s t} {run : List SpannedToken} :
    Stream.Between base (run ++ [t]) s → s.last = t.span → Sound level base (.extend s)
  /-- A routine that is not lower, such as this one in the next round of a loop, is called only when
  a token was taken. -/
  | call {α level base s events} {routine : Routine α} {run : List SpannedToken} :
    Stream.Between base run s → (level ≤ routine.level → run ≠ []) →
    (∀ e ∈ events, Sound routine.level s e) → Sound level base (.call routine s events)

/-! ### Programs that mirror parsers -/

/-- How many steps more than those paid by the tokens taken a run may have. -/
def allowance (o : Except SyntaxError α × Stream) (gain loss : Int) : Int :=
  match o.1 with
  | .ok _ => gain
  | .error _ => loss

/-- In a routine of the given level that started at `base`, the program run at `s` has the outcome
`o`. Every token taken pays for twelve steps; `gain` is what else a success may cost and `loss` what
else an error may cost. -/
def Program.Mirrors (level : Nat) (base s : Stream) (p : Program α)
    (o : Except SyntaxError α × Stream) (gain loss : Int) : Prop :=
  ∃ events run, Runs p s events o ∧ (∀ e ∈ events, e.Sound level base) ∧ Stream.Between s run o.2 ∧
    (Event.stepsOfAll events : Int) ≤ 12 * run.length + allowance o gain loss

/-- A routine that starts at `s` has the outcome `o`. -/
def Routine.Mirrored (routine : Routine α) (s : Stream) (o : Except SyntaxError α × Stream)
    (gain loss : Int) : Prop :=
  Program.Mirrors routine.level s s routine.body o gain loss

theorem Event.stepsOfAll_append (events events' : List Event) :
    stepsOfAll (events ++ events') = stepsOfAll events + stepsOfAll events' := by
  induction events with
  | nil => simp [stepsOfAll]
  | cons e events ih =>
    rw [List.cons_append, stepsOfAll, stepsOfAll, ih, Nat.add_assoc]

theorem Runs.andThen {p : Program α} {f : α → Program β} {value : α} {s m : Stream}
    {events events' : List Event} {o : Except SyntaxError β × Stream}
    (h : Runs p s events (.ok value, m)) (h' : Runs (f value) m events' o) :
    Runs (p >>= f) s (events ++ events') o := by
  generalize same : ((.ok value, m) : Except SyntaxError α × Stream) = first at h
  induction h with
  | done =>
    cases same
    exact h'
  | fail => cases same
  | look _ ih => exact .look (ih h' same)
  | take _ ih => exact .take (ih h' same)
  | extend _ ih => exact .extend (ih h' same)
  | call called _ _ ih => exact .call called (ih h' same)
  | stop => cases same

theorem Runs.andThen_error {p : Program α} {f : α → Program β} {error : SyntaxError} {s m : Stream}
    {events : List Event} (h : Runs p s events (.error error, m)) :
    Runs (p >>= f) s events (.error error, m) := by
  generalize same : ((.error error, m) : Except SyntaxError α × Stream) = first at h
  induction h with
  | done => cases same
  | fail =>
    cases same
    exact .fail
  | look _ ih => exact .look (ih same)
  | take _ ih => exact .take (ih same)
  | extend _ ih => exact .extend (ih same)
  | call called _ _ ih => exact .call called (ih same)
  | stop called =>
    cases same
    exact .stop called

namespace Program.Mirrors

variable {level : Nat} {base s m : Stream} {p : Program α} {f : α → Program β}
  {o : Except SyntaxError α × Stream} {gain gain' loss loss' : Int}

theorem mono (h : Mirrors level base s p o gain loss) (more : gain ≤ gain') (more' : loss ≤ loss') :
    Mirrors level base s p o gain' loss' := by
  obtain ⟨events, run, runs, sound, between, steps⟩ := h
  refine ⟨events, run, runs, sound, between, Int.le_trans steps ?_⟩
  apply Int.add_le_add_left
  unfold allowance
  split
  · exact more
  · exact more'

theorem done {value : α} (enough : 0 ≤ gain) :
    Mirrors level base s (pure value) (.ok value, s) gain loss :=
  ⟨[], [], .done, List.forall_mem_nil _, .nil s, by simpa [Event.stepsOfAll, allowance]⟩

theorem fail {error : SyntaxError} (enough : 0 ≤ loss) :
    Mirrors level base s (.fail error : Program α) (.error error, s) gain loss :=
  ⟨[], [], .fail, List.forall_mem_nil _, .nil s, by simpa [Event.stepsOfAll, allowance]⟩

/-- A first step that takes no token. -/
theorem step {p' : Program α} {e : Event} (h : Mirrors level base s p o (gain - 1) (loss - 1))
    (sound : e.Sound level base) (single : e.steps = 1)
    (first : ∀ events, Runs p s events o → Runs p' s (e :: events) o) :
    Mirrors level base s p' o gain loss := by
  obtain ⟨events, run, runs, sounds, between, steps⟩ := h
  refine ⟨_, run, first events runs, List.forall_mem_cons.2 ⟨sound, sounds⟩, between, ?_⟩
  rw [Event.stepsOfAll, single]
  unfold allowance at steps ⊢
  split at steps <;> push_cast <;> omega

theorem ahead {f : SpannedToken → Program α}
    (h : Mirrors level base s (f s.current) o (gain - 1) (loss - 1)) :
    Mirrors level base s (Program.ahead >>= f) o gain loss :=
  h.step .look rfl fun _ runs => .look runs

theorem covering {span : Span} {f : Span → Program α} (past : Stream.Past base s)
    (h : Mirrors level base s (f (span.extend s.last)) o (gain - 1) (loss - 1)) :
    Mirrors level base s (Program.covering span >>= f) o gain loss := by
  obtain ⟨run, t, between⟩ := past
  have last : s.last = t.span := by simpa using between.last
  exact h.step (.extend between last) rfl fun _ runs => .extend runs

/-- A token that is taken pays for eleven further steps. -/
theorem pass {f : Unit → Program α} (since : Stream.Since base s)
    (inside : s.current.token ≠ .endOfInput)
    (h : Mirrors level base s.next (f ()) o (gain + 11) (loss + 11)) :
    Mirrors level base s (Program.pass >>= f) o gain loss := by
  obtain ⟨events, run, runs, sounds, between, steps⟩ := h
  have sound : (Event.take s).Sound level base := .take since inside
  refine ⟨.take s :: events, s.current :: run, .take runs,
    List.forall_mem_cons.2 ⟨sound, sounds⟩, (Stream.Between.single inside).append between, ?_⟩
  rw [Event.stepsOfAll, Event.steps, List.length_cons]
  unfold allowance at steps ⊢
  split at steps <;> push_cast <;> omega

/-- A part of a program and what follows it mirror a parser and the one that goes on with its
value. -/
theorem andThen {q : Parsed α k} {g : (value : α) → (r : Stream) → r.size < k → Parsed β n}
    (first : Mirrors level base s p q.outcome gain' loss') (most : loss' ≤ loss)
    (next : ∀ value m fewer run, Stream.Between s run m →
      Mirrors level base m (f value) (g value m fewer).outcome (gain - gain') (loss - gain')) :
    Mirrors level base s (p >>= f) (q.andThen g).outcome gain loss := by
  obtain ⟨events, run, runs, sounds, between, steps⟩ := first
  -- An error of the first part is one of the whole, so its loss is all that counts.
  cases q with
  | failed error stop =>
    have least : allowance (Parsed.failed error stop : Parsed α k).outcome gain' loss' ≤
        allowance (Parsed.failed error stop : Parsed β n).outcome gain loss := most
    exact ⟨events, run, runs.andThen_error, sounds, between,
      Int.le_trans steps (Int.add_le_add_left least _)⟩
  | done value m fewer =>
    obtain ⟨events', run', runs', sounds', between', steps'⟩ := next value m fewer run between
    refine ⟨events ++ events', run ++ run', runs.andThen runs',
      List.forall_mem_append.2 ⟨sounds, sounds'⟩, between.append between', ?_⟩
    have whole : allowance (g value m fewer).outcome (gain - gain') (loss - gain') =
        allowance (g value m fewer).outcome gain loss - gain' := by
      unfold allowance
      split <;> rfl
    have here : allowance (Parsed.done value m fewer).outcome gain' loss' = gain' := rfl
    rw [whole] at steps'
    rw [here] at steps
    rw [Event.stepsOfAll_append, List.length_append, Parsed.andThen]
    push_cast
    omega

/-- A routine that mirrors a parser is called on a stream. -/
theorem read {routine : Routine α} (h : routine.Mirrored s o gain loss)
    (since : Stream.Since base s) (low : level ≤ routine.level → Stream.Past base s) :
    Mirrors level base s (Program.read routine) o (gain + 1) (loss + 1) := by
  obtain ⟨events, run, runs, sounds, between, steps⟩ := h
  have sound : (Event.call routine s events).Sound level base := by
    by_cases higher : level ≤ routine.level
    · obtain ⟨front, t, before⟩ := low higher
      exact .call before (fun _ => by simp) sounds
    · obtain ⟨front, before⟩ := since
      exact .call before (fun le => absurd le higher) sounds
  have called : Runs (Program.read routine) s [.call routine s events] o := by
    obtain ⟨value | error, stop⟩ := o
    · exact .stop runs
    · exact .call runs .done
  refine ⟨_, run, called, List.forall_mem_singleton.2 sound, between, ?_⟩
  rw [Event.stepsOfAll, Event.stepsOfAll, Event.steps]
  unfold allowance at steps ⊢
  split at steps <;> push_cast <;> omega

/-- When a token was taken, every routine may be called. -/
theorem readPast {routine : Routine α} (h : routine.Mirrored s o gain loss)
    (past : Stream.Past base s) :
    Mirrors level base s (Program.read routine) o (gain + 1) (loss + 1) :=
  .read h past.since fun _ => past

theorem readLower {routine : Routine α} (h : routine.Mirrored s o gain loss)
    (since : Stream.Since base s) (lower : routine.level < level) :
    Mirrors level base s (Program.read routine) o (gain + 1) (loss + 1) :=
  .read h since fun le => absurd le (Nat.not_le_of_lt lower)

end Program.Mirrors

end ExprScript
