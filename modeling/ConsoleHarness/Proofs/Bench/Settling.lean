import ConsoleHarness.Proofs.Bench.Clock
import ConsoleHarness.Proofs.Bench.Fidelity
import ConsoleHarness.Proofs.Bench.Linked

/-! # The end of a session

At its end a session waits for its target, kills it, or does both, then drains what output is left
and seals its transcript.  `Bench.exitWait` is the answer of the wait; from it follow the incident
that is reported and whether the target is killed, which then happens exactly once.  The drain goes
on until nothing is pending, so the sealed transcript is all that has arrived, and each of the three
waits is bounded by its own limit.
-/

namespace ConsoleHarness

/-- A signal that was sent, and whether it was delivered. -/
def Event.signal? : Event → Option (String × Bool)
  | .killed name delivered => some (name, delivered)
  | _ => none

/-- The signals that were sent, delivered or not. -/
def signalsIn (history : List Entry) : List (String × Bool) := history.filterMap (·.event.signal?)

@[simp] theorem signalsIn_append (a b : List Entry) :
    signalsIn (a ++ b) = signalsIn a ++ signalsIn b := List.filterMap_append

/-- What the answer of an exit wait is reported as. -/
def ExitWait.incidents (limit : Millis) : ExitWait → List Incident
  | .exited => []
  | .timeout => [.shutdownMissing limit]
  | .interrupted => [.interruptedExit]

namespace Bench

theorem Evolves.signalsIn_eq {deeds : List Deed} {b c : Bench} (evolves : Evolves deeds b c)
    (spared : .kill ∉ deeds) : signalsIn c.history = signalsIn b.history :=
  evolves.view_eq Event.signal? (by
    intro event kind
    cases event with
    | killed _ _ => exact absurd kind spared
    | _ => rfl)

theorem Evolves.unsignalled {deeds : List Deed} {b c : Bench} (evolves : Evolves deeds b c)
    (spared : .kill ∉ deeds) : ∃ news, c.history = b.history ++ news ∧ signalsIn news = [] := by
  obtain ⟨news, grown, _⟩ := evolves.news
  have same := evolves.signalsIn_eq spared
  rw [grown, signalsIn_append, List.append_right_eq_self] at same
  exact ⟨news, grown, same⟩

/-! ## The wait for the exit -/

section Exit

variable {b c : Bench} {w : Wait}

theorem woken_eq_exit_iff (waits : w.exit = true) :
    b.woken w = some .exit ↔ b.wire.exit.isSome = true := by
  cases known : b.wire.exit.isSome with
  | true => simp [woken, waits, known]
  | false =>
    simp only [woken, waits, known, Bool.and_false, Bool.false_eq_true, if_false, iff_false]
    split
    · simp
    · split <;> simp

theorem exit_eq_none_of_woken (waits : w.exit = true) (asleep : b.woken w = none) :
    b.wire.exit = none := by
  have missing := mt (woken_eq_exit_iff (b := b) waits).mpr (by rw [asleep]; simp)
  simpa using missing

theorem runAgenda_eq_exit_iff (waits : w.exit = true) (due : Option Millis) (agenda : List Item)
    {b : Bench} (running : b.wire.exit = none) :
    (runAgenda w due b agenda).2 = .exit ↔
      (runAgenda w due b agenda).1.wire.exit.isSome = true := by
  induction agenda generalizing b with
  | nil => cases due <;> simp [runAgenda, running]
  | cons item rest ih =>
    rw [runAgenda]
    cases due.filter (· < item.due) with
    | some moment => simp [running]
    | none =>
      dsimp only
      cases woke : (b.step item rest).woken w with
      | none => exact ih (exit_eq_none_of_woken waits woke)
      | some wake =>
        dsimp only
        rw [← woken_eq_exit_iff waits, woke, Option.some_inj]

/-- A pause that waits for the exit ends with it if and only if the exit is there. -/
theorem pause_eq_exit_iff (b : Bench) (waits : w.exit = true) :
    (b.pause w).2 = .exit ↔ (b.pause w).1.wire.exit.isSome = true := by
  have body (due : Option Millis) : ((b.register w due).pauseBody w due).2 = .exit ↔
      ((b.register w due).pauseBody w due).1.wire.exit.isSome = true := by
    simp only [pauseBody]
    split
    · rename_i there
      simp only [Bool.and_eq_true] at there
      exact iff_of_true rfl there.2
    · cases woke : (b.register w due).tick.notePause.woken w with
      | some wake =>
        dsimp only
        rw [← woken_eq_exit_iff waits, woke, Option.some_inj]
      | none => exact runAgenda_eq_exit_iff waits due _ (exit_eq_none_of_woken waits woke)
  exact body _

theorem Step.onWire {deed : Deed} (step : Step deed b c)
    (known : b.session.exit.isSome = true → b.wire.exit.isSome = true) :
    c.session.exit.isSome = true → c.wire.exit.isSome = true := by
  cases step with
  | alike same =>
    rw [same.session]
    intro told
    obtain ⟨exit, there⟩ := Option.isSome_iff_exists.mp (known told)
    rw [same.exit exit there]
    rfl
  | @exit _ exit there => exact fun _ => by simp [there]
  | _ => exact known

theorem Evolves.onWire {deeds : List Deed} (evolves : Evolves deeds b c)
    (unknown : b.session.exit = none) (known : c.session.exit.isSome = true) :
    c.wire.exit.isSome = true :=
  evolves.invariant (fun b => b.session.exit.isSome = true → b.wire.exit.isSome = true)
    (fun _ _ _ _ step => step.onWire) (by simp [unknown]) known

theorem awaitExit_of_known {exit : Exit} (known : b.session.exit = some exit) (limit : Millis)
    (heeds : Bool) : b.awaitExit limit heeds = (b, .exited) := by
  rw [awaitExit, known]
  rfl

/-- A wait for an exit that is not known is a pause, or was cancelled before it began. -/
theorem awaitExit_cases (b : Bench) (limit : Millis) (heeds : Bool) :
    b.session.exit.isSome = true ∧ b.awaitExit limit heeds = (b, .exited) ∨
      b.session.exit = none ∧ b.awaitExit limit heeds = (b, .interrupted) ∨
      b.session.exit = none ∧ ∃ w : Wait, w.exit = true ∧
        (b.awaitExit limit heeds).1 = (b.pause w).1 ∧
        ((b.awaitExit limit heeds).2 = .exited ↔ (b.pause w).2 = .exit) := by
  cases known : b.session.exit with
  | some exit => exact .inl ⟨rfl, awaitExit_of_known known limit heeds⟩
  | none =>
    right
    rw [awaitExit, known]
    cases cancelled : heeds && b.aborted with
    | true => exact .inl ⟨rfl, by simp⟩
    | false =>
      let delay := Timer.delay (if limit ≤ 0 then 0 else limit)
      refine .inr ⟨rfl, { timer := some delay, exit := true, abort := heeds }, rfl, ?_⟩
      simp only [Option.isSome_none, Bool.false_eq_true, if_false]
      split <;> rename_i same <;> simp [delay, same]

theorem exit_eq_none_of_awaitExit {limit : Millis} {heeds : Bool}
    (missed : (b.awaitExit limit heeds).2 ≠ .exited) :
    (b.awaitExit limit heeds).1.session.exit = none := by
  rcases awaitExit_cases b limit heeds with ⟨_, done⟩ | ⟨unknown, done⟩ |
    ⟨unknown, w, waits, same, answer⟩
  · rw [done] at missed
    contradiction
  · rw [done]
    exact unknown
  · have absent := mt (pause_eq_exit_iff b waits).mpr (mt answer.mpr missed)
    rw [same]
    by_contra known
    exact absent ((passes_pause b w).onWire unknown (Option.isSome_iff_ne_none.mpr known))

theorem Linked.exit_of_awaitExit (linked : Linked b) {limit : Millis} {heeds : Bool}
    (exited : (b.awaitExit limit heeds).2 = .exited) :
    (b.awaitExit limit heeds).1.session.exit.isSome = true := by
  rcases awaitExit_cases b limit heeds with ⟨known, done⟩ | ⟨_, done⟩ | ⟨_, w, waits, same, answer⟩
  · rw [done]
    exact known
  · rw [done] at exited
    contradiction
  · rw [same, (linked.pause w).exit]
    exact (pause_eq_exit_iff b waits).mp (answer.mp exited)

end Exit

/-! ## Dismissing the target -/

/-- The answer of the exit wait after a script; only a script that completed is given one. -/
def exitWait (b : Bench) (status : ScriptStatus) (limit : Millis) (heeds : Bool) :
    Option ExitWait :=
  match status with
  | .completed => some (b.awaitExit limit heeds).2
  | .aborted | .interrupted => none

theorem exitWait_isSome (b : Bench) (status : ScriptStatus) (limit : Millis) (heeds : Bool) :
    (b.exitWait status limit heeds).isSome = true ↔ status = .completed := by
  cases status <;> simp [exitWait]

theorem status_of_exitWait {b : Bench} {status : ScriptStatus} {limit : Millis} {heeds : Bool}
    {answer : ExitWait} (waited : b.exitWait status limit heeds = some answer) :
    status = .completed := by
  rw [← exitWait_isSome b status limit heeds, waited]
  rfl

theorem exitWait_eq_none {status : ScriptStatus} (stopped : status ≠ .completed) (b : Bench)
    (limit : Millis) (heeds : Bool) : b.exitWait status limit heeds = none := by
  rw [← Option.not_isSome_iff_eq_none, exitWait_isSome]
  exact stopped

/-- The target of a session has to be killed: its exit is not known, and it was not given the time
to exit, or did not use it. -/
def Overdue (b : Bench) (status : ScriptStatus) (limit : Millis) (heeds : Bool) : Prop :=
  b.session.exit = none ∧ b.exitWait status limit heeds ≠ some .exited

/-- What a signal leaves in the journal: itself, now, and then no other. -/
structure Signalled (name : String) (b c : Bench) : Prop where
  noted : ∃ delivered rest, signalsIn rest = [] ∧
    c.history = b.history ++ ⟨b.clock, .killed name delivered⟩ :: rest

section Dismissal

variable {b c d : Bench} {name : String}

theorem Signalled.signalsIn_eq (signalled : Signalled name b c) :
    ∃ delivered, signalsIn c.history = signalsIn b.history ++ [(name, delivered)] := by
  obtain ⟨delivered, rest, quiet, grown⟩ := signalled.noted
  refine ⟨delivered, ?_⟩
  rw [grown, signalsIn_append]
  exact congrArg (signalsIn b.history ++ (name, delivered) :: ·) quiet

theorem Signalled.aside (signalled : Signalled name b c) {deeds : List Deed}
    (evolves : Evolves deeds c d) (spared : .kill ∉ deeds) : Signalled name b d := by
  obtain ⟨delivered, rest, quiet, grown⟩ := signalled.noted
  obtain ⟨news, later, unsignalled⟩ := evolves.unsignalled spared
  refine ⟨delivered, rest ++ news, ?_, ?_⟩
  · rw [signalsIn_append, quiet, unsignalled]
    rfl
  · rw [later, grown, List.append_assoc]
    rfl

theorem signalled_kill (b : Bench) (name : String) : Signalled name b (b.kill name).1 := by
  have kills := kill_killsTo b name
  generalize b.kill name = result at kills
  cases kills with
  | refused _ _ noted => exact ⟨false, [], rfl, noted⟩
  | @delivered n m _ _ noted passes =>
    have sent : Signalled name b n := ⟨true, [], rfl, noted⟩
    exact ⟨(sent.aside passes (by simp)).noted⟩

theorem signalled_forceTerminate (running : b.session.exit = none) (grace : Millis) (logs : Bool) :
    Signalled "SIGKILL" b (b.forceTerminate grace logs).1 := by
  rcases forceTerminate_cases b grace logs with ⟨known, _⟩ | ⟨_, after⟩
  · rw [running] at known
    contradiction
  · exact (signalled_kill b "SIGKILL").aside after (by simp)

theorem forceTerminate_of_known {exit : Exit} (known : b.session.exit = some exit)
    (grace : Millis) (logs : Bool) : b.forceTerminate grace logs = (b, true) := by
  rw [forceTerminate, known]
  rfl

/-- A session that gets rid of its target by force kills it, unless it knows it to be gone. -/
theorem signalsIn_forceTerminate (b : Bench) (grace : Millis) (logs : Bool) :
    (b.session.exit = none → ∃ delivered, signalsIn (b.forceTerminate grace logs).1.history =
        signalsIn b.history ++ [("SIGKILL", delivered)]) ∧
      (b.session.exit ≠ none →
        signalsIn (b.forceTerminate grace logs).1.history = signalsIn b.history) := by
  refine ⟨fun running => ?_, fun known => ?_⟩
  · exact (signalled_forceTerminate running grace logs).signalsIn_eq
  · obtain ⟨exit, gone⟩ := Option.ne_none_iff_exists'.mp known
    rw [forceTerminate_of_known gone]

/-- What is true of a target that was dismissed, and of the incidents on the way. -/
structure Dismissed (b : Bench) (status : ScriptStatus) (timeouts : Timeouts) (heeds : Bool)
    (c : Bench) (incidents : List Incident) : Prop where
  signalled : b.Overdue status timeouts.exit heeds →
    ∃ delivered, signalsIn c.history = signalsIn b.history ++ [("SIGKILL", delivered)]
  spared : ¬ b.Overdue status timeouts.exit heeds → signalsIn c.history = signalsIn b.history
  incidents : incidents =
    (b.exitWait status timeouts.exit heeds).elim [] (ExitWait.incidents timeouts.exit)
  onTime : c.clock ≤ b.clock + max 1 timeouts.exit + max 1 timeouts.killGrace

/-- It is enough that nothing was signalled before the target is got rid of by force, and that it is
known to be gone by then unless it is overdue. -/
theorem dismissed_forceTerminate {n : Bench} {status : ScriptStatus} {timeouts : Timeouts}
    {heeds : Bool} {incidents : List Incident}
    (quiet : signalsIn n.history = signalsIn b.history)
    (due : n.session.exit = none ↔ b.Overdue status timeouts.exit heeds)
    (told : incidents =
      (b.exitWait status timeouts.exit heeds).elim [] (ExitWait.incidents timeouts.exit))
    (onTime : n.clock ≤ b.clock + max 1 timeouts.exit) (logs : Bool) :
    Dismissed b status timeouts heeds (n.forceTerminate timeouts.killGrace logs).1 incidents := by
  have signals := signalsIn_forceTerminate n timeouts.killGrace logs
  have waited := clock_forceTerminate_le n timeouts.killGrace logs
  rw [quiet] at signals
  constructor
  · exact fun overdue => signals.1 (due.mpr overdue)
  · exact fun inTime => signals.2 fun running => inTime (due.mp running)
  · exact told
  · linarith

theorem dismissed_endForcibly {m : Bench} {answer : ExitWait} {timeouts : Timeouts} {heeds : Bool}
    (waited : b.awaitExit timeouts.exit heeds = (m, answer)) (missed : answer ≠ .exited)
    (incident : Incident) (logs : Bool)
    (told : answer.incidents timeouts.exit = [incident]) :
    Dismissed b .completed timeouts heeds (m.endForcibly incident timeouts.killGrace logs).1
      (m.endForcibly incident timeouts.killGrace logs).2 := by
  obtain rfl : (b.awaitExit timeouts.exit heeds).1 = m := by rw [waited]
  have answered : b.exitWait .completed timeouts.exit heeds = some answer := by
    rw [exitWait, waited]
  have passes := passes_awaitExit b timeouts.exit heeds
  have logged := evolves_log (b.awaitExit timeouts.exit heeds).1 logs .warn incident.message
  have running := exit_eq_none_of_awaitExit (b := b) (by rw [waited]; exact missed)
  -- An exit known before the wait would have ended it.
  have unknown : b.session.exit = none := by
    by_contra known
    obtain ⟨exit, gone⟩ := Option.ne_none_iff_exists'.mp known
    rw [awaitExit_of_known gone] at waited
    exact missed (Prod.mk.inj waited).2.symm
  refine dismissed_forceTerminate ?_ (iff_of_true ?_ ?_) ?_ ?_ logs
  · rw [logged.signalsIn_eq (by simp), passes.signalsIn_eq (by simp)]
  · rw [logged.exit_eq (by simp)]
    exact running
  · exact ⟨unknown, by rw [answered]; simpa using missed⟩
  · rw [answered]
    exact told.symm
  · rw [logged.clock_eq (by simp)]
    exact clock_awaitExit_le b timeouts.exit heeds

/-- A target whose script did not complete is given no time to exit. -/
theorem dismiss_stopped {status : ScriptStatus} (stopped : status ≠ .completed) (b : Bench)
    (timeouts : Timeouts) (heeds logs : Bool) :
    ∃ n, Evolves [.tell] b n ∧ b.dismiss status timeouts heeds logs =
      ((n.forceTerminate timeouts.killGrace logs).1, []) := by
  refine ⟨b.log logs .warn "Script did not complete, killing emulator...", evolves_log b _ _ _, ?_⟩
  cases status with
  | completed => contradiction
  | aborted | interrupted => rfl

theorem dismissed_stopped {status : ScriptStatus} (stopped : status ≠ .completed)
    (timeouts : Timeouts) (heeds logs : Bool) :
    Dismissed b status timeouts heeds (b.dismiss status timeouts heeds logs).1
      (b.dismiss status timeouts heeds logs).2 := by
  have unasked := exitWait_eq_none stopped b timeouts.exit heeds
  obtain ⟨n, logged, done⟩ := dismiss_stopped stopped b timeouts heeds logs
  have positive : (0 : Millis) < max 1 timeouts.exit :=
    lt_of_lt_of_le (by decide) (le_max_left 1 timeouts.exit)
  rw [done]
  refine dismissed_forceTerminate (logged.signalsIn_eq (by simp)) ?_ ?_ ?_ logs
  · rw [logged.exit_eq (by simp), Overdue, unasked]
    simp
  · rw [unasked]
    rfl
  · rw [logged.clock_eq (by simp)]
    linarith

theorem dismissed_dismiss (b : Bench) (status : ScriptStatus) (timeouts : Timeouts)
    (heeds logs : Bool) :
    Dismissed b status timeouts heeds (b.dismiss status timeouts heeds logs).1
      (b.dismiss status timeouts heeds logs).2 := by
  cases status with
  | aborted | interrupted => exact dismissed_stopped (by simp) timeouts heeds logs
  | completed =>
    cases waited : b.awaitExit timeouts.exit heeds with
    | mk m answer =>
      rw [dismiss, waited]
      cases answer with
      | timeout => exact dismissed_endForcibly waited (by simp) _ logs rfl
      | interrupted => exact dismissed_endForcibly waited (by simp) _ logs rfl
      | exited =>
        have same : (b.awaitExit timeouts.exit heeds).1 = m := by rw [waited]
        have answered : b.exitWait .completed timeouts.exit heeds = some .exited := by
          rw [exitWait, waited]
        have quiet := (passes_awaitExit b timeouts.exit heeds).signalsIn_eq (by simp)
        rw [same] at quiet
        have onTime := clock_awaitExit_le b timeouts.exit heeds
        have positive : (0 : Millis) < max 1 timeouts.killGrace :=
          lt_of_lt_of_le (by decide) (le_max_left 1 timeouts.killGrace)
        rw [same] at onTime
        constructor
        · exact fun due => absurd answered due.2
        · exact fun _ => quiet
        · rw [answered]
          rfl
        · linarith

end Dismissal

/-! ## The whole end -/

section Settlement

variable {b : Bench} {status : ScriptStatus} {timeouts : Timeouts}

theorem isTerminal_finish (b : Bench) : b.finish.session.state.isTerminal = true := by
  simp only [finish, session_note, session_withSession, Session.finish]
  cases ended : b.session.state.isTerminal with
  | true => exact ended
  | false => cases b.session.killRequested <;> rfl

theorem evolves_settle_of_awaitExit (b : Bench) (timeouts : Timeouts) (heeds logs : Bool) :
    Evolves settleDeeds (b.awaitExit timeouts.exit heeds).1
      (b.settle .completed timeouts heeds logs).1 := by
  have settled := evolves_settle_of_dismiss b .completed timeouts heeds logs
  obtain ⟨m, _, told, gone⟩ := dismiss_cases b .completed timeouts heeds logs
  have logged : Evolves settleDeeds _ m := (told rfl).mono (by simp)
  rcases gone with same | same
  · rw [same] at settled
    exact logged.trans (settled.mono (by simp))
  · rw [same] at settled
    have killed := evolves_forceTerminate m timeouts.killGrace logs
    exact (logged.trans (killed.mono (by simp))).trans (settled.mono (by simp))

/-- With an open transcript, a session whose target is dismissed is drained and sealed. -/
theorem settle_spec (opened : b.session.transcript.isSealed = false) (status : ScriptStatus)
    (timeouts : Timeouts) (heeds logs : Bool) :
    ∃ m more, Consumes (b.dismiss status timeouts heeds logs).1 more m ∧
      (b.dismiss status timeouts heeds logs).1.drain timeouts.drain = (m, .ok more) ∧
      m.session.pending = [] ∧
      (m.session.outputClosed = true ∨
        (b.dismiss status timeouts heeds logs).1.clock + timeouts.drain ≤ m.clock) ∧
      b.settle status timeouts heeds logs =
        (m.finish, .ok
          { state := m.finish.session.state
            transcript := m.session.transcript.text
            incidents := (b.dismiss status timeouts heeds logs).2 }) := by
  have dismissed := evolves_dismiss b status timeouts heeds logs
  have still : (b.dismiss status timeouts heeds logs).1.session.transcript.isSealed = false :=
    (dismissed.isSealed_eq (by simp)).trans opened
  simp only [settle, drain]
  -- The drain can only fail on a sealed transcript, and dismissing the target does not seal it.
  obtain ⟨m, more, consumes, ⟨done, read, ends⟩ | ⟨_, closed⟩⟩ := drainLoop_spec
    ((b.dismiss status timeouts heeds logs).1.clock + timeouts.drain) ""
    (b.dismiss status timeouts heeds logs).1
  · rw [String.empty_append] at done
    rw [done]
    exact ⟨m, more, consumes, rfl, read, ends, rfl⟩
  · rw [still] at closed
    contradiction

/-- A session that was running ends as killed if a signal was delivered for it. -/
theorem settle_state (opened : b.session.transcript.isSealed = false)
    (running : b.session.state = .running) {heeds logs : Bool} {c : Bench} {settled : Settled}
    (done : b.settle status timeouts heeds logs = (c, .ok settled)) :
    settled.state = if c.session.killRequested then .killed else .completed := by
  obtain ⟨m, more, consumes, -, -, -, ended⟩ := settle_spec opened status timeouts heeds logs
  obtain ⟨rfl, same⟩ := Prod.mk.inj (ended.symm.trans done)
  obtain rfl := Except.ok.inj same
  have still : m.session.state = .running := by
    rw [consumes.evolves.state_eq (by simp) (by simp),
      (evolves_dismiss b status timeouts heeds logs).state_eq (by simp) (by simp), running]
  simp only [finish, session_note, session_withSession, Session.finish, still]
  rfl

/-- What is true of a session that was brought to its end: `news` is what happened meanwhile. -/
structure Settlement (b : Bench) (status : ScriptStatus) (timeouts : Timeouts) (heeds logs : Bool)
    (news : List Entry) (c : Bench) (settled : Settled) : Prop where
  grown : c.history = b.history ++ news
  state : settled.state = c.session.state
  ended : settled.state.isTerminal = true
  closed : c.session.transcript.isSealed = true
  transcript : settled.transcript = c.session.transcript.text
  /-- All that has arrived is in the transcript, and nothing is left over. -/
  whole : settled.transcript =
    b.session.transcript.text ++ String.join b.session.pending ++ arrivedIn news
  read : c.session.pending = []
  /-- Nothing is held back on the wire of a session that listens. -/
  held : b.Linked → c.wire.listening = .already → c.wire.held = []
  /-- The sealing waits for the end of the output, or for the deadline of the drain. -/
  patient : c.session.outputClosed = true ∨
    (b.dismiss status timeouts heeds logs).1.clock + timeouts.drain ≤ c.clock
  signalled : b.Overdue status timeouts.exit heeds →
    ∃ delivered, signalsIn news = [("SIGKILL", delivered)]
  spared : ¬ b.Overdue status timeouts.exit heeds → signalsIn news = []
  incidents : settled.incidents =
    (b.exitWait status timeouts.exit heeds).elim [] (ExitWait.incidents timeouts.exit)
  onTime : c.clock <
    b.clock + max 1 timeouts.exit + max 1 timeouts.killGrace + timeouts.drain + 1

/-- Whatever its target does and however its script ended, a session is brought to its end: it is
sealed with all that has arrived in its transcript, its target was killed once if it was overdue
and not at all otherwise, the incident tells what the wait for the exit came to, and the three
waits have taken no longer than they may. -/
theorem settle_leaves_nothing (opened : b.session.transcript.isSealed = false)
    (nonneg : 0 ≤ timeouts.drain) (status : ScriptStatus) (heeds logs : Bool) :
    ∃ news c settled, b.settle status timeouts heeds logs = (c, .ok settled) ∧
      Settlement b status timeouts heeds logs news c settled := by
  obtain ⟨m, more, consumes, drained, read, ends, done⟩ :=
    settle_spec opened status timeouts heeds logs
  have dismissed := dismissed_dismiss b status timeouts heeds logs
  have evolves : Evolves [.world, .kill, .tell, .consume] b m :=
    ((evolves_dismiss b status timeouts heeds logs).mono (by simp)).trans
      (consumes.evolves.mono (by simp))
  have open' : m.session.transcript.isSealed = false := (evolves.isSealed_eq (by simp)).trans opened
  obtain ⟨fresh, grown, -⟩ := evolves.news
  have sealing : m.finish.history = b.history ++ (fresh ++ [⟨m.clock, .sealed⟩]) := by
    rw [finish, history_note, history_withSession, grown, List.append_assoc]
    rfl
  -- The drain sends no signal, so those of the dismissal are all.
  have signals : signalsIn b.history ++ signalsIn (fresh ++ [⟨m.clock, .sealed⟩]) =
      signalsIn (b.dismiss status timeouts heeds logs).1.history := by
    rw [← consumes.evolves.signalsIn_eq (by simp), grown, signalsIn_append, signalsIn_append]
    exact congrArg _ (List.append_nil _)
  refine ⟨_, m.finish, _, done, sealing, rfl, isTerminal_finish m, rfl, rfl, ?_, read, ?_, ends,
    ?_, ?_, dismissed.incidents, ?_⟩
  · obtain ⟨arrived, news, shown⟩ := evolves.balance (by simp) open'
    rw [read] at shown
    rw [grown, arrivedIn_append, String.append_right_inj] at news
    rw [arrivedIn_append, news, ← String.append_assoc, ← shown]
    simp [Event.chunk?]
  · intro linked
    have drainedLinked := (linked.dismiss status timeouts heeds logs).drain timeouts.drain
    rw [drained] at drainedLinked
    exact drainedLinked.held
  · intro due
    obtain ⟨delivered, sent⟩ := dismissed.signalled due
    exact ⟨delivered, List.append_cancel_left (signals.trans sent)⟩
  · intro inTime
    exact List.append_right_eq_self.mp (signals.trans (dismissed.spared inTime))
  · have drainedOnTime := clock_drain_lt (b.dismiss status timeouts heeds logs).1 nonneg
    have dismissedOnTime := dismissed.onTime
    rw [drained] at drainedOnTime
    change m.clock < _
    linarith

/-- A target that prints its last words when it is to be killed, and does not care otherwise. -/
def stubborn : Target where
  onKill := fun _ _ => .acts [{ after := some 3, action := .emit "bye".toUTF8.toList }]

/-- Little time for the end of a session. -/
def brief : Timeouts where
  exit := 10
  killGrace := 5
  drain := 2

theorem settle_leaves_nothing_stubborn :
    let b := (launch stubborn).start.1
    ∃ c settled, b.settle .aborted brief true true = (c, .ok settled) ∧
      settled.state.isTerminal = true ∧
      (∃ delivered, signalsIn c.history = [("SIGKILL", delivered)]) ∧
      settled.incidents = [] ∧ c.clock < 18 := by
  have opened : (launch stubborn).start.1.session.transcript.isSealed = false := rfl
  have nonneg : 0 ≤ brief.drain := by decide
  obtain ⟨news, c, settled, done, ending⟩ :=
    settle_leaves_nothing opened nonneg .aborted true true
  obtain ⟨delivered, sent⟩ := ending.signalled ⟨rfl, by simp [exitWait]⟩
  have early := ending.onTime
  refine ⟨c, settled, done, ending.ended, ⟨delivered, ?_⟩, ending.incidents, ?_⟩
  · rw [ending.grown, signalsIn_append, sent]
    rfl
  · exact early.trans_le (by decide +kernel)

end Settlement

end Bench

end ConsoleHarness
