import Mathlib.Data.Rat.Floor
import ConsoleHarness.Proofs.Bench.Settling

/-! # Waits that arm one timer

The wait for the exit and the pause behind a line arm a single timer and do not look at the clock
again, so they last as long as the timer counts.  That is no less than they were asked for exactly
where a timer can count the duration (`Timer.Counts`): up to a millisecond, or a whole number of
them up to `Timer.longest`.  A longer wait is over after one millisecond.
-/

namespace ConsoleHarness

/-- A timer can count the duration without cutting it short. -/
def Timer.Counts (duration : Millis) : Prop :=
  duration ≤ 1 ∨ ∃ n : ℕ, duration = n ∧ n ≤ longest

theorem Timer.delay_natCast {n : ℕ} (positive : 1 ≤ n) (short : n ≤ longest) :
    delay n = n := by
  have counted : 1 ≤ (n : Millis) ∧ (n : Millis) ≤ (longest : Rat) :=
    ⟨by exact_mod_cast positive, by exact_mod_cast short⟩
  have whole : (n : Millis).floor = n := Int.floor_natCast (R := ℚ) n
  rw [delay, if_pos counted, whole, Int.toNat_natCast]

/-- A timer is never early exactly on what it can count. -/
theorem Timer.le_delay_iff (duration : Millis) :
    duration ≤ (delay duration : Millis) ↔ Counts duration := by
  constructor
  · intro late
    by_cases counted : 1 ≤ duration ∧ duration ≤ (longest : Rat)
    · -- The delay is the duration cut to an integer, so here nothing was cut off.
      have cut := delay_le duration
      rw [max_eq_right counted.1] at cut
      have same := le_antisymm late cut
      refine .inr ⟨delay duration, same, ?_⟩
      have short := counted.2
      rw [same] at short
      exact_mod_cast short
    · rw [delay, if_neg counted] at late
      exact .inl (by simpa using late)
  · rintro (little | ⟨n, rfl, short⟩)
    · have counted : (1 : Millis) ≤ delay duration := by exact_mod_cast one_le_delay duration
      exact little.trans counted
    · rcases Nat.eq_zero_or_pos n with rfl | positive
      · exact_mod_cast Nat.zero_le _
      · rw [delay_natCast positive short]

namespace Bench

/-! ## Why a pause ends -/

/-- What is true of a bench on which a pause ended. -/
def Wake.Due (w : Wait) (due : Option Millis) (b : Bench) : Wake → Prop
  | .exit => w.exit = true ∧ b.wire.exit.isSome = true
  | .output => w.output = true
  | .abort => (w.abort && b.aborted) = true
  | .timer => due = some b.clock
  | .never => due = none

section Pauses

variable {w : Wait} {due : Option Millis} {b : Bench}

theorem due_of_woken {wake : Wake} (woke : b.woken w = some wake) : Wake.Due w due b wake := by
  unfold woken at woke
  split at woke
  · rename_i exited
    obtain rfl := Option.some.inj woke
    exact Bool.and_eq_true_iff.mp exited
  · split at woke
    · rename_i heard
      obtain rfl := Option.some.inj woke
      simp only [Bool.and_eq_true] at heard
      exact heard.1
    · split at woke
      · rename_i cancelled
        obtain rfl := Option.some.inj woke
        exact cancelled
      · contradiction

theorem clock_moveTo_eq {moment : Millis} (ahead : b.clock ≤ moment) :
    (b.moveTo moment).clock = moment := if_pos ahead

theorem due_runAgenda (agenda : List Item)
    (ahead : ∀ moment, due = some moment → b.clock ≤ moment) :
    Wake.Due w due (runAgenda w due b agenda).1 (runAgenda w due b agenda).2 := by
  induction agenda generalizing b with
  | nil =>
    cases due with
    | none => rfl
    | some moment => exact congrArg some (clock_moveTo_eq (ahead moment rfl)).symm
  | cons item rest ih =>
    rw [runAgenda]
    cases timed : due.filter (· < item.due) with
    | some moment =>
      obtain ⟨rfl, _⟩ := Option.filter_eq_some_iff.mp timed
      exact congrArg some (clock_moveTo_eq (ahead moment rfl)).symm
    | none =>
      dsimp only
      cases woke : (b.step item rest).woken w with
      | some wake => exact due_of_woken woke
      | none =>
        refine ih fun moment same => ?_
        subst same
        have reached : ¬ moment < item.due := by
          intro passed
          rw [Option.filter_some_pos (by simpa using passed)] at timed
          contradiction
        rw [clock_step]
        exact clock_moveTo_le (ahead moment rfl) (not_lt.mp reached)

/-- A pause tells rightly why it ended, and one that ended with its timer has lasted as long as the
timer counts. -/
theorem due_pause (b : Bench) (w : Wait) :
    Wake.Due w (w.timer.map fun (delay : ℕ) => b.clock + (delay : Millis)) (b.pause w).1
      (b.pause w).2 := by
  generalize moment : (w.timer.map fun (delay : ℕ) => b.clock + (delay : Millis)) = due
  have ahead : ∀ moment, due = some moment → (b.register w due).tick.notePause.clock ≤ moment := by
    rintro _ rfl
    obtain ⟨delay, _, rfl⟩ := Option.map_eq_some_iff.mp moment
    have nonneg : (0 : Millis) ≤ (delay : Millis) := Nat.cast_nonneg delay
    simp only [notePause, clock_note, clock_tick, clock_register]
    linarith
  have body : Wake.Due w due ((b.register w due).pauseBody w due).1
      ((b.register w due).pauseBody w due).2 := by
    unfold pauseBody
    split
    · rename_i exited
      exact Bool.and_eq_true_iff.mp exited
    · dsimp only
      split
      · rename_i woke
        exact due_of_woken woke
      · exact due_runAgenda _ ahead
  simp only [pause, moment]
  generalize (b.register w due).pauseBody w due = result at body
  obtain ⟨c, wake⟩ := result
  cases wake <;> exact body

end Pauses

/-! ## The two waits -/

section Waits

variable {b c : Bench} {limit : Millis} {heeds : Bool}

/-- Why a wait for the exit ended without it. -/
theorem awaitExit_due (b : Bench) (limit : Millis) (heeds : Bool) :
    ((b.awaitExit limit heeds).2 = .timeout → (b.awaitExit limit heeds).1.clock =
        b.clock + (Timer.delay (if limit ≤ 0 then 0 else limit) : Millis)) ∧
      ((b.awaitExit limit heeds).2 = .interrupted →
        (heeds && (b.awaitExit limit heeds).1.aborted) = true) := by
  have due := due_pause b
    { timer := some (Timer.delay (if limit ≤ 0 then 0 else limit)), exit := true, abort := heeds }
  unfold awaitExit
  split
  · simp
  · split
    · rename_i cancelled
      exact ⟨by simp, fun _ => cancelled⟩
    · dsimp only
      split <;> rename_i same <;> rw [same] at due
      · simp
      · exact ⟨by simp, fun _ => due⟩
      · exact ⟨fun _ => (Option.some.inj due).symm, by simp⟩
      · exact absurd due (by simp [Wake.Due])
      · exact absurd due (by simp [Wake.Due])

theorem clock_of_timeout (admitted : 0 ≤ limit) (done : b.awaitExit limit heeds = (c, .timeout)) :
    c.clock = b.clock + (Timer.delay limit : Millis) := by
  have waited := (awaitExit_due b limit heeds).1 (by rw [done])
  rw [done] at waited
  split at waited
  · rename_i none
    rwa [le_antisymm none admitted]
  · exact waited

/-- The pause behind a line lasts as long as its timer, unless it is cancelled. -/
theorem clock_settleDelay (admitted : 0 ≤ limit)
    (calm : (heeds && (b.settleDelay limit heeds).aborted) = false) :
    (b.settleDelay limit heeds).clock =
      b.clock + if limit = 0 then 0 else (Timer.delay limit : Millis) := by
  have due := due_pause b { timer := some (Timer.delay limit), abort := heeds }
  unfold settleDelay at calm ⊢
  split at calm
  · rename_i skipped
    rw [if_pos skipped]
    rcases Bool.or_eq_true_iff.mp skipped with none | cancelled
    · rw [if_pos (le_antisymm (of_decide_eq_true none) admitted), add_zero]
    · rw [cancelled] at calm
      contradiction
  · rename_i waits
    have lasts : limit ≠ 0 := by
      rintro rfl
      simp at waits
    rw [if_neg waits, if_neg lasts]
    generalize b.pause _ = result at due calm ⊢
    obtain ⟨c, wake⟩ := result
    cases wake with
    | timer => exact (Option.some.inj due).symm
    | abort => exact absurd (calm.symm.trans due) (by simp)
    | exit => exact absurd due.1 (by simp)
    | output | never => exact absurd due (by simp [Wake.Due])

end Waits

/-! ## Exits that are not missed -/

section Exits

variable {deed : Deed} {deeds : List Deed} {b c m : Bench} {limit : Millis} {heeds : Bool}
  {news : List Entry}

theorem Step.exit_iff (step : Step deed b c) (exit : Exit) :
    c.session.exit = some exit ↔ b.session.exit = some exit ∨
      ∃ moment, c.history = b.history ++ [⟨moment, .exited exit⟩] := by
  cases step with
  | alike same => simp [history, same.journal, same.session]
  | exit onWire unknown => simp [unknown, eq_comm]
  | _ => simp [notePause, history, note, withSession]

/-- An exit that is told after a wait ran out came no sooner than the end of the wait. -/
theorem late_of_timeout (done : b.awaitExit limit heeds = (m, .timeout))
    (evolves : Evolves deeds m c) (grown : c.history = b.history ++ news) {entry : Entry}
    (member : entry ∈ news) {exit : Exit} (exited : entry.event = .exited exit) :
    m.clock ≤ entry.moment := by
  have passes := passes_awaitExit b limit heeds
  have running : (b.awaitExit limit heeds).1.session.exit = none :=
    exit_eq_none_of_awaitExit (by rw [done]; simp)
  rw [done] at passes running
  obtain ⟨early, before, _⟩ := passes.news
  obtain ⟨late, after, dated⟩ := evolves.news_between
  rw [after, before, List.append_assoc, List.append_cancel_left_eq] at grown
  subst grown
  rcases List.mem_append.mp member with old | new
  · -- The session would know of an exit during the wait.
    have told := (passes.raised_iff (fun b => decide (b.session.exit = some exit))
      (fun _ _ _ step => by simpa using step.exit_iff exit) before).mpr
        (.inr ⟨entry, old, exited⟩)
    rw [running] at told
    simp at told
  · exact (dated entry new).2.1

/-- Bringing a session to its end changes neither the incidents nor the signals of the dismissal. -/
theorem dismissed_of_settle {status : ScriptStatus} {timeouts : Timeouts} {logs : Bool}
    {settled : Settled} (done : b.settle status timeouts heeds logs = (c, .ok settled)) :
    Dismissed b status timeouts heeds (b.dismiss status timeouts heeds logs).1 settled.incidents ∧
      signalsIn c.history = signalsIn (b.dismiss status timeouts heeds logs).1.history := by
  have signals := (evolves_settle_of_dismiss b status timeouts heeds logs).signalsIn_eq (by simp)
  rw [done] at signals
  refine ⟨?_, signals⟩
  have dismissed := dismissed_dismiss b status timeouts heeds logs
  simp only [settle] at done
  split at done
  · simp at done
  · obtain ⟨_, same⟩ := Prod.mk.inj done
    rw [← Except.ok.inj same]
    exact dismissed

/-- A target that is seen to exit before the timer of the exit wait is neither reported nor, unless
the run is cancelled, killed. -/
theorem settle_of_early_exit {timeouts : Timeouts} {logs : Bool} {settled : Settled}
    (admitted : 0 ≤ timeouts.exit)
    (done : b.settle .completed timeouts heeds logs = (c, .ok settled))
    (grown : c.history = b.history ++ news) {entry : Entry} (member : entry ∈ news) {exit : Exit}
    (exited : entry.event = .exited exit)
    (early : entry.moment < b.clock + (Timer.delay timeouts.exit : Millis)) :
    .shutdownMissing timeouts.exit ∉ settled.incidents ∧
      ((heeds && c.aborted) = false → settled.incidents = [] ∧ signalsIn news = []) := by
  have evolves := evolves_settle_of_awaitExit b timeouts heeds logs
  obtain ⟨dismissed, signals⟩ := dismissed_of_settle done
  rw [done] at evolves
  cases waited : b.awaitExit timeouts.exit heeds with
  | mk m answer =>
    rw [waited] at evolves
    have answered : b.exitWait .completed timeouts.exit heeds = some answer := by
      rw [exitWait, waited]
    have told := dismissed.incidents
    rw [answered, Option.elim_some] at told
    cases answer with
    | timeout =>
      have late := late_of_timeout waited evolves grown member exited
      rw [clock_of_timeout admitted waited] at late
      exact absurd early (not_lt.mpr late)
    | exited =>
      have spared := dismissed.spared fun overdue => overdue.2 answered
      rw [← signals, grown, signalsIn_append, List.append_right_eq_self] at spared
      exact ⟨by simp [told, ExitWait.incidents], fun _ => ⟨told, spared⟩⟩
    | interrupted =>
      have cancelled := (awaitExit_due b timeouts.exit heeds).2 (by rw [waited])
      rw [waited, Bool.and_eq_true] at cancelled
      obtain ⟨after, later, _⟩ := evolves.news
      have still := (evolves.raised_iff (·.aborted) (fun _ _ _ step => step.aborted_iff)
        later).mpr (.inl cancelled.2)
      refine ⟨by simp [told, ExitWait.incidents], fun calm => ?_⟩
      rw [cancelled.1, Bool.true_and, still] at calm
      contradiction

end Exits

/-- The two waits with a single timer last exactly as long as it counts, and a target that exits
within that time is neither reported nor killed; that is no less than what was asked for exactly on
durations that a timer can count. -/
theorem waits_last_their_timers (b : Bench) {limit : Millis} (admitted : 0 ≤ limit)
    (heeds : Bool) :
    (limit ≤ (Timer.delay limit : Millis) ↔ Timer.Counts limit) ∧
      (∀ c, b.awaitExit limit heeds = (c, .timeout) →
        c.clock = b.clock + (Timer.delay limit : Millis)) ∧
      ((heeds && (b.settleDelay limit heeds).aborted) = false →
        (b.settleDelay limit heeds).clock =
          b.clock + if limit = 0 then 0 else (Timer.delay limit : Millis)) ∧
      ∀ timeouts logs news c settled, timeouts.exit = limit →
        b.settle .completed timeouts heeds logs = (c, .ok settled) →
        c.history = b.history ++ news →
        (∃ entry ∈ news, (∃ exit, entry.event = .exited exit) ∧
          entry.moment < b.clock + (Timer.delay limit : Millis)) →
        .shutdownMissing limit ∉ settled.incidents ∧
          ((heeds && c.aborted) = false → settled.incidents = [] ∧ signalsIn news = []) := by
  refine ⟨Timer.le_delay_iff limit, fun c => clock_of_timeout admitted,
    clock_settleDelay admitted, ?_⟩
  rintro timeouts logs news c settled rfl done grown ⟨entry, member, ⟨exit, exited⟩, early⟩
  exact settle_of_early_exit admitted done grown member exited early

/-- A target that takes its time to exit. -/
def leisurely : Target where
  events := [{ after := some 50, action := .exit { code := some 0 } }]

theorem waits_last_their_timers_leisurely :
    ((launch leisurely).start.1.awaitExit 20 true).2 = .timeout ∧
      ((launch leisurely).start.1.awaitExit 20 true).1.clock = 20 := by
  have missed : ((launch leisurely).start.1.awaitExit 20 true).2 = .timeout := by decide +kernel
  have admitted : (0 : Millis) ≤ 20 := by decide
  obtain ⟨-, waited, -⟩ := waits_last_their_timers (launch leisurely).start.1 admitted true
  refine ⟨missed, ?_⟩
  rw [waited _ (Prod.ext rfl missed)]
  decide +kernel

/-- More time than a timer can count. -/
def generous : Timeouts where
  exit := 3000000000
  killGrace := 5
  drain := 2

/-- A longer wait than a timer can count is over after a millisecond: the target that exits 50
milliseconds later is reported and killed.  A pause of one and a half milliseconds lasts one. -/
theorem long_wait_is_cut_short :
    (∃ c settled, (launch leisurely).start.1.settle .completed generous true true =
        (c, .ok settled) ∧ settled.incidents = [.shutdownMissing 3000000000] ∧
      signalsIn c.history = [("SIGKILL", true)] ∧ c.clock < 50) ∧
    ((launch leisurely).start.1.settleDelay (3 / 2) true).aborted = false ∧
    ((launch leisurely).start.1.settleDelay (3 / 2) true).clock = 1 := by
  refine ⟨?_, by decide +kernel, by decide +kernel⟩
  have opened : (launch leisurely).start.1.session.transcript.isSealed = false := by decide +kernel
  obtain ⟨m, more, -, drained, -, -, done⟩ := settle_spec opened .completed generous true true
  obtain ⟨-, signals⟩ := dismissed_of_settle done
  have onTime := clock_drain_lt ((launch leisurely).start.1.dismiss .completed generous true true).1
    (by decide : 0 ≤ generous.drain)
  rw [drained] at onTime
  have told : ((launch leisurely).start.1.dismiss .completed generous true true).2 =
      [.shutdownMissing 3000000000] := by decide +kernel
  refine ⟨m.finish, _, done, told, ?_, ?_⟩
  · rw [signals]
    decide +kernel
  · exact onTime.trans (by decide +kernel)

end Bench

end ConsoleHarness
