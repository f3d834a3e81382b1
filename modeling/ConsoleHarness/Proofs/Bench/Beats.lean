import ConsoleHarness.Proofs.Bench.Clock

/-! # Where a reader loses time

A reader lets time pass only while it has nothing to do: no output is pending, the output is not
over, and no cancellation calls it off.  `Bench.Beats waiting b c` says that `c` comes from `b` by
what takes no time, and by waits that each begin on a bench where `waiting` holds.  Then `waiting`
held at every moment before the end, of all that had been written down until then
(`Bench.Beats.waiting_at`).
-/

namespace ConsoleHarness.Bench

/-- A reader that heeds the run's signal or not has nothing to do. -/
structure Idle (heeds : Bool) (b : Bench) : Prop where
  empty : b.session.pending = []
  opened : b.session.outputClosed = false
  calm : (heeds && b.aborted) = false

/-- What a reader does, and what happens meanwhile. -/
abbrev readDeeds : List Deed := [.world, .consume, .prompt]

/-- One thing that happens during a read: it takes no time, or the reader waits. -/
inductive Beat (waiting : Bench → Prop) : Bench → Bench → Prop
  | act {b c deed} (step : Step deed b c) (member : deed ∈ readDeeds) (now : c.clock = b.clock) :
      Beat waiting b c
  | wait {b c} (idle : waiting b) (same : Alike b c) : Beat waiting b c

/-- `c` comes from `b` with time passing only where `waiting` holds. -/
def Beats (waiting : Bench → Prop) : Bench → Bench → Prop :=
  Relation.ReflTransGen (Beat waiting)

section Beats

variable {waiting : Bench → Prop} {b c d : Bench}

theorem Beat.evolves (beat : Beat waiting b c) : Evolves readDeeds b c := by
  cases beat with
  | act step member => exact .of_step step member
  | wait _ same => exact .of_step (.alike same) (by simp)

theorem Beats.evolves (beats : Beats waiting b c) : Evolves readDeeds b c := by
  induction beats with
  | refl => exact .refl
  | tail _ last ih => exact ih.trans last.evolves

theorem Beats.refl : Beats waiting b b := Relation.ReflTransGen.refl

theorem Beats.trans (first : Beats waiting b c) (second : Beats waiting c d) :
    Beats waiting b d :=
  Relation.ReflTransGen.trans first second

theorem Beats.of_wait (idle : waiting b) (same : Alike b c) : Beats waiting b c :=
  Relation.ReflTransGen.single (.wait idle same)

/-- What takes no time as a whole takes none at any step. -/
theorem Beats.of_evolves (evolves : Evolves readDeeds b c) (now : c.clock = b.clock) :
    Beats waiting b c := by
  induction evolves with
  | refl => exact .refl
  | @tail d e first last ih =>
    obtain ⟨deed, member, step⟩ := last
    have still : d.clock = b.clock :=
      le_antisymm (step.later.trans_eq now) (Evolves.later first)
    exact (ih still).trans (Relation.ReflTransGen.single (.act step member (now.trans still.symm)))

theorem Beats.of_passes (passes : Passes b c) (now : c.clock = b.clock) : Beats waiting b c :=
  .of_evolves (passes.mono (by simp)) now

/-- At every moment from the start on and before the end, the reader was waiting, and has not
written down anything between that wait and the moment. -/
theorem Beats.waiting_at (beats : Beats waiting b c) {moment : Millis}
    (started : b.clock ≤ moment) (running : moment < c.clock) :
    ∃ d later, Evolves readDeeds b d ∧ waiting d ∧ d.clock ≤ moment ∧
      c.history = d.history ++ later ∧ ∀ entry ∈ later, moment < entry.moment := by
  induction beats with
  | refl => exact absurd running (not_lt.mpr started)
  | @tail d e first last ih =>
    by_cases there : moment < d.clock
    · -- The moment is before the last step, which can only add a later event.
      obtain ⟨w, later, reached, idle, before, grown, after⟩ := ih there
      obtain ⟨news, added, dated⟩ := last.evolves.news_between
      refine ⟨w, later ++ news, reached, idle, before, ?_, ?_⟩
      · rw [added, grown, List.append_assoc]
      · intro entry member
        rcases List.mem_append.mp member with old | new
        · exact after entry old
        · exact there.trans_le (dated entry new).2.1
    · -- The last step passes over the moment, so it is a wait.
      have before : d.clock ≤ moment := not_lt.mp there
      cases last with
      | act step member now => exact absurd (now ▸ running) there
      | wait idle same =>
        refine ⟨d, [], Beats.evolves first, idle, before, ?_, by simp⟩
        rw [List.append_nil]
        exact congrArg List.reverse same.journal

end Beats

/-! ## Pauses -/

section Pauses

variable {waiting : Bench → Prop} {w : Wait}

theorem idle_of_woken (hears : w.output = true) {b : Bench} (asleep : b.woken w = none) :
    Idle w.abort b := by
  unfold woken at asleep
  split at asleep
  · contradiction
  · split at asleep
    · contradiction
    · rename_i quiet
      split at asleep
      · contradiction
      · rename_i calm
        simp only [hears, Bool.true_and, Bool.or_eq_true, Bool.not_eq_true', not_or] at quiet
        exact ⟨by simpa using quiet.1, by simpa using quiet.2, by simpa using calm⟩

theorem beats_step {b : Bench} (idle : waiting b) (item : Item) (rest : List Item) :
    Beats waiting b (b.step item rest) := by
  have waited : Beats waiting b ((b.withAgenda rest).moveTo item.due) :=
    .of_wait idle (Alike.withAgenda.trans Alike.moveTo)
  have passed : Passes ((b.withAgenda rest).moveTo item.due) (b.step item rest) :=
    ((passes_make _ _).trans (passes_tick _)).trans (passes_notePause _)
  exact waited.trans (.of_passes passed (by simp [step, notePause]))

/-- A pause for output lets time pass only while the reader is idle. -/
theorem beats_runAgenda (hears : w.output = true) (due : Option Millis) (agenda : List Item)
    {b : Bench} (waits : ∀ d, Passes b d → Idle w.abort d → waiting d) (idle : Idle w.abort b) :
    Beats waiting b (runAgenda w due b agenda).1 := by
  have here : waiting b := waits b .refl idle
  induction agenda generalizing b with
  | nil =>
    unfold runAgenda
    split
    · exact .of_wait here (Alike.withAgenda.trans Alike.moveTo)
    · exact .of_wait here Alike.withAgenda
  | cons item rest ih =>
    unfold runAgenda
    split
    · exact .of_wait here (Alike.withAgenda.trans Alike.moveTo)
    · have stepped := beats_step here item rest
      split
      · exact stepped
      · rename_i asleep
        have still := idle_of_woken hears asleep
        have further := fun d passes =>
          waits d ((passes_step b item rest).trans passes)
        exact stepped.trans (ih further still (further _ .refl still))

theorem beats_pause (hears : w.output = true) (unasked : w.exit = false) {b : Bench}
    (waits : ∀ d, Passes b d → Idle w.abort d → waiting d) : Beats waiting b (b.pause w).1 := by
  simp only [pause, pauseBody, unasked, Bool.false_and, Bool.false_eq_true, if_false]
  generalize w.timer.map _ = due
  have ready : Passes b (b.register w due).tick.notePause :=
    (Alike.register.passes.trans (passes_tick _)).trans (passes_notePause _)
  have entered : Beats waiting b (b.register w due).tick.notePause :=
    .of_passes ready (by simp [notePause])
  refine (entered.trans ?_).trans (.of_passes Alike.expire.passes (by simp))
  split
  · exact .refl
  · rename_i asleep
    exact beats_runAgenda hears due _ (fun d passes => waits d (ready.trans passes))
      (idle_of_woken hears asleep)

theorem beats_waitForOutput {b : Bench} (limit : Millis) (heeds : Bool)
    (waits : ∀ d, Passes b d → Idle heeds d → waiting d) :
    Beats waiting b (b.waitForOutput limit heeds) := by
  unfold waitForOutput
  split
  · exact .refl
  · exact beats_pause rfl rfl waits

end Pauses

/-! ## Reads and drains -/

theorem beats_recordChunk {waiting : Bench → Prop} {b : Bench} {chunk : String}
    {session : Session} (taken : b.session.takeChunk = some (chunk, session)) :
    Beats waiting b (b.recordChunk chunk session).1 := by
  refine .of_evolves ?_ (clock_recordChunk b chunk session)
  rcases recordChunk_spec taken with ⟨_, consumes⟩ | ⟨_, _, consumes⟩
  · exact consumes.evolves.mono (by simp)
  · exact consumes.evolves.mono (by simp)

/-- A reader waits, and the marker has not come in what it consumed since the given text. -/
structure Unmarked (marker : List Char) (heeds : Bool) (start : String) (b : Bench) : Prop where
  idle : Idle heeds b
  absent : ∃ text, consumedIn b.history = start ++ text ∧ Marker.Absent marker text.toList

theorem beats_readLoop {marker : List Char} {deadline : Millis} {heeds : Bool}
    {window : List Char} {start text : String} {b : Bench}
    (absent : Marker.Absent marker text.toList)
    (carried : window = Marker.window marker text.toList)
    (read : consumedIn b.history = start ++ text) :
    Beats (Unmarked marker heeds start) b
      (readLoop marker deadline heeds window text b).1 := by
  fun_induction readLoop marker deadline heeds window text b with
  | case1 | case6 | case7 => exact .refl
  | case2 window text b _ chunk session taken count inside after fault refused
  | case3 window text b _ chunk session taken count inside after fault refused =>
    -- The marker is in this chunk: the loop ends here, and consuming takes no time.
    subst carried
    obtain ⟨unit, tail, cut, rfl, _⟩ := Marker.endsFirst_of_endIn? absent inside
    rw [Nat.zero_add] at refused
    have now := clock_recordMarked b chunk session unit.length
    rw [refused] at now
    refine .of_evolves ?_ now
    rcases recordMarked_spec taken cut with ⟨m, done, consumes⟩ | ⟨m, done, _, consumes⟩
    all_goals obtain ⟨rfl, _⟩ := Prod.mk.inj (done.symm.trans refused)
    · exact (consumes.evolves.mono (by simp)).trans (.of_step .prompt (by simp))
    · exact consumes.evolves.mono (by simp)
  | case4 window text b _ chunk session taken _ fault refused => exact beats_recordChunk taken
  | case5 window text b _ chunk session taken passed recorded ih =>
    subst carried
    rcases recordChunk_spec taken with ⟨_, consumes⟩ | ⟨done, _⟩
    · refine (beats_recordChunk taken).trans (ih ?_ ?_ ?_)
      · rw [String.toList_append]
        exact Marker.absent_of_endIn? absent passed
      · rw [Marker.windowAfter_window, String.toList_append]
      · rw [consumes.consumed, read, String.append_assoc]
    · rw [done] at recorded; contradiction
  | case8 window text b _ taken _ _ ih =>
    have unread := fun {d : Bench} (passes : Passes b d) => passes.consumedIn_eq (by simp)
    have waited :
        Beats (Unmarked marker heeds start) b (b.waitForOutput (deadline - b.clock) heeds) :=
      beats_waitForOutput _ heeds fun d passes idle =>
        ⟨idle, text, (unread passes).trans read, absent⟩
    exact waited.trans (ih absent carried ((unread (passes_waitForOutput _ _ _)).trans read))

theorem beats_readUntil {marker : String} (filled : marker ≠ "") (limit : Millis) (heeds : Bool)
    (b : Bench) :
    Beats (Unmarked marker.toList heeds (consumedIn b.history)) b
      (b.readUntil marker limit heeds).1 := by
  have nowhere : Marker.Absent marker.toList "".toList := Marker.absent_nil (by simpa using filled)
  have loop : Beats (Unmarked marker.toList heeds (consumedIn b.history)) b
      (readLoop marker.toList (b.clock + limit) heeds [] "" b).1 :=
    beats_readLoop nowhere (by simp) String.append_empty.symm
  unfold readUntil
  rw [if_neg (by simpa using filled)]
  split <;> rename_i same <;> rw [same] at loop <;> exact loop

theorem beats_drainLoop (deadline : Millis) (text : String) (b : Bench) :
    Beats (Idle false) b (drainLoop deadline text b).1 := by
  fun_induction drainLoop deadline text b with
  | case1 text b chunk session taken fault refused => exact beats_recordChunk taken
  | case2 text b chunk session taken recorded ih => exact (beats_recordChunk taken).trans ih
  | case3 | case4 => exact .refl
  | case5 text b taken _ left ih =>
    exact (beats_waitForOutput _ false fun _ _ idle => idle).trans ih

end ConsoleHarness.Bench
