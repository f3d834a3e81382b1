import Mathlib.Algebra.Order.Ring.Unbundled.Rat
import Mathlib.Tactic.Linarith
import ConsoleHarness.Proofs.Bench.Program

/-! # The clock of a bench

Only the world lets time pass; whatever the program does takes none.  So everything that is written
down between two moments carries a moment between them, and the program can lose time at its pauses
only.  A pause with a timer is over when the timer is, which bounds each wait by the delay that it
asked for, or by one millisecond where it asked for less.
-/

namespace ConsoleHarness

/-- A timer runs for no longer than it is asked to, or for one millisecond. -/
theorem Timer.delay_le (limit : Millis) : (Timer.delay limit : Millis) ≤ max 1 limit := by
  by_cases counted : 1 ≤ limit ∧ limit ≤ (Timer.longest : Rat)
  · have nonneg : (0 : Int) ≤ limit.floor := by
      have positive : (1 : Int) ≤ limit.floor := Rat.le_floor_iff.mpr counted.1
      omega
    have floored : ((limit.floor.toNat : Nat) : Millis) ≤ limit := by
      have below := Rat.floor_le limit
      rw [← Int.toNat_of_nonneg nonneg] at below
      exact_mod_cast below
    rw [Timer.delay, if_pos counted]
    exact floored.trans (le_max_right 1 limit)
  · rw [Timer.delay, if_neg counted]
    exact le_max_left 1 limit

namespace Bench

/-! ## Moments in the journal -/

section Moments

variable {deed : Deed} {deeds : List Deed} {b c : Bench}

theorem Step.later (step : Step deed b c) : b.clock ≤ c.clock := by
  cases step with
  | alike same => exact same.later
  | _ => exact Rat.le_refl

theorem Step.clock_eq (step : Step deed b c) (indoors : deed ≠ .world) : c.clock = b.clock := by
  cases step with
  | alike | arrive | close | exit | abort | pause => contradiction
  | _ => rfl

/-- An event is written down with the moment at which it happens. -/
theorem Step.moment_eq (step : Step deed b c) {entry : Entry}
    (added : c.history = b.history ++ [entry]) : entry.moment = b.clock := by
  cases step with
  | alike same => simp [history, same.journal] at added
  | start | handle | lose | claim | mark => simp at added
  | _ =>
    have noted := List.append_cancel_left (List.reverse_cons.symm.trans added)
    exact congrArg Entry.moment (List.singleton_inj.mp noted).symm

namespace Evolves

theorem later (evolves : Evolves deeds b c) : b.clock ≤ c.clock := by
  induction evolves with
  | refl => exact le_refl _
  | tail _ last ih =>
    obtain ⟨deed, _, step⟩ := last
    exact ih.trans step.later

theorem clock_eq (evolves : Evolves deeds b c) (indoors : .world ∉ deeds) : c.clock = b.clock :=
  evolves.frame (·.clock) fun _ member _ _ step =>
    step.clock_eq (ne_of_mem_of_not_mem member indoors)

/-- The news between two benches are dated between their clocks. -/
theorem news_between (evolves : Evolves deeds b c) :
    ∃ news, c.history = b.history ++ news ∧
      ∀ entry ∈ news, entry.event.deed ∈ deeds ∧ b.clock ≤ entry.moment ∧
        entry.moment ≤ c.clock := by
  induction evolves with
  | refl => exact ⟨[], by simp, by simp⟩
  | @tail d e first last ih =>
    obtain ⟨deed, member, step⟩ := last
    obtain ⟨news, grown, dated⟩ := ih
    have early : ∀ entry ∈ news, entry.event.deed ∈ deeds ∧ b.clock ≤ entry.moment ∧
        entry.moment ≤ e.clock := fun entry there =>
      let ⟨kind, after, before⟩ := dated entry there
      ⟨kind, after, before.trans step.later⟩
    rcases step.history_eq with same | ⟨entry, added, kind⟩
    · exact ⟨news, same.trans grown, early⟩
    · refine ⟨news ++ [entry], by rw [added, grown, List.append_assoc], ?_⟩
      intro other there
      rcases List.mem_append.mp there with old | new
      · exact early other old
      · obtain rfl := List.mem_singleton.mp new
        have moment := step.moment_eq added
        refine ⟨kind ▸ member, ?_, ?_⟩
        · rw [moment]; exact Evolves.later first
        · rw [moment]; exact step.later

end Evolves

end Moments

/-! ## What takes no time -/

@[simp] theorem clock_log (b : Bench) (logs : Bool) (level : LogLevel) (message : String) :
    (b.log logs level message).clock = b.clock := by
  cases logs <;> rfl

@[simp] theorem clock_begin (b : Bench) (actions : List Timed) :
    (b.begin actions).clock = b.clock := by
  simp only [begin]
  induction actions generalizing b with
  | nil => rfl
  | cons timed rest ih =>
    rw [List.foldl_cons, ih]
    split
    · exact clock_act b timed.action
    · rfl

@[simp] theorem clock_kill (b : Bench) (name : String) : (b.kill name).1.clock = b.clock := by
  simp only [kill, signal]
  cases b.killReaction name with
  | refused => rfl
  | acts actions => exact clock_begin _ actions

@[simp] theorem clock_record (b : Bench) (unit : String) : (b.record unit).1.clock = b.clock := by
  unfold record
  split <;> rfl

@[simp] theorem clock_recordChunk (b : Bench) (chunk : String) (session : Session) :
    (b.recordChunk chunk session).1.clock = b.clock := by
  simp [recordChunk]

@[simp] theorem clock_recordMarked (b : Bench) (chunk : String) (session : Session) (count : Nat) :
    (b.recordMarked chunk session count).1.clock = b.clock := by
  have recorded := clock_record (b.withSession session) (String.ofList (chunk.toList.take count))
  unfold recordMarked
  dsimp only
  split <;> rename_i same <;> rw [same] at recorded <;> exact recorded

/-! ## How long a pause lasts -/

theorem clock_step (b : Bench) (item : Item) (rest : List Item) :
    (b.step item rest).clock = (b.moveTo item.due).clock := by
  simp only [step, notePause, clock_note, clock_tick, clock_make]
  rfl

theorem clock_moveTo_le {b : Bench} {moment limit : Millis} (now : b.clock ≤ limit)
    (due : moment ≤ limit) : (b.moveTo moment).clock ≤ limit := by
  simp only [moveTo]
  split
  · exact due
  · exact now

/-- Whatever the agenda holds, a pause does not outlast its timer. -/
theorem clock_runAgenda_le (w : Wait) {due : Millis} (agenda : List Item) {b : Bench}
    (now : b.clock ≤ due) : (runAgenda w (some due) b agenda).1.clock ≤ due := by
  induction agenda generalizing b with
  | nil => exact clock_moveTo_le now (le_refl due)
  | cons item rest ih =>
    rw [runAgenda]
    by_cases timed : due < item.due
    · rw [Option.filter_some_pos (by simpa using timed)]
      exact clock_moveTo_le now (le_refl due)
    · rw [Option.filter_some_neg (by simpa using timed)]
      have moved : (b.step item rest).clock ≤ due := by
        rw [clock_step]
        exact clock_moveTo_le now (not_lt.mp timed)
      cases (b.step item rest).woken w with
      | some wake => exact moved
      | none => exact ih moved

theorem clock_pause_le (b : Bench) {w : Wait} {delay : Nat} (timed : w.timer = some delay) :
    (b.pause w).1.clock ≤ b.clock + (delay : Millis) := by
  have later : b.clock ≤ b.clock + (delay : Millis) := by
    have : (0 : Millis) ≤ (delay : Millis) := Nat.cast_nonneg delay
    linarith
  simp only [pause, timed, Option.map_some, clock_expire, pauseBody]
  split
  · exact later
  · cases (b.register w (some (b.clock + (delay : Millis)))).tick.notePause.woken w with
    | some wake => simp [notePause]
    | none => exact clock_runAgenda_le w _ (by simp [notePause])

theorem clock_waitForOutput_le (b : Bench) {limit : Millis} (heeds : Bool) (left : 0 < limit) :
    (b.waitForOutput limit heeds).clock ≤ b.clock + max 1 limit := by
  have some_time := Timer.delay_le limit
  simp only [waitForOutput]
  split
  · have : 0 < max 1 limit := left.trans_le (le_max_right 1 limit)
    linarith
  · have paused := clock_pause_le b
      (w := { timer := some (Timer.delay limit), output := true, abort := heeds }) rfl
    linarith

theorem clock_awaitExit_le (b : Bench) (limit : Millis) (heeds : Bool) :
    (b.awaitExit limit heeds).1.clock ≤ b.clock + max 1 limit := by
  have positive : (0 : Millis) < max 1 limit := lt_of_lt_of_le (by decide) (le_max_left 1 limit)
  have waits := Timer.delay_le (if limit ≤ 0 then 0 else limit)
  have cut : max 1 (if limit ≤ 0 then 0 else limit) ≤ max 1 limit := by
    split
    · exact max_le (le_max_left 1 limit) (le_trans (by decide) (le_max_left 1 limit))
    · exact le_refl _
  simp only [awaitExit]
  split
  · linarith
  · split
    · linarith
    · have paused := clock_pause_le b
        (w := { timer := some (Timer.delay (if limit ≤ 0 then 0 else limit)), exit := true,
                abort := heeds }) rfl
      split <;> rename_i same <;> rw [same] at paused <;> linarith

theorem clock_forceTerminate_le (b : Bench) (grace : Millis) (logs : Bool) :
    (b.forceTerminate grace logs).1.clock ≤ b.clock + max 1 grace := by
  have waited := clock_awaitExit_le (b.kill "SIGKILL").1 grace false
  rw [clock_kill] at waited
  simp only [forceTerminate]
  split
  · have : (0 : Millis) < max 1 grace := lt_of_lt_of_le (by decide) (le_max_left 1 grace)
    linarith
  · split <;> rename_i same <;> rw [same] at waited
    · exact waited
    all_goals rw [clock_log]; exact waited

/-- A reader's pause before its deadline ends less than a millisecond after it: the last one may be
asked for less than a millisecond, and then lasts a whole one. -/
theorem clock_waitForOutput_lt {b : Bench} {deadline : Millis} (heeds : Bool)
    (left : ¬ deadline - b.clock ≤ 0) :
    (b.waitForOutput (deadline - b.clock) heeds).clock < deadline + 1 := by
  have waited := clock_waitForOutput_le b heeds (not_le.mp left)
  rcases max_cases 1 (deadline - b.clock) with ⟨same, _⟩ | ⟨same, _⟩ <;> rw [same] at waited <;>
    linarith

theorem clock_readLoop (marker : List Char) (deadline : Millis) (heeds : Bool)
    (window : List Char) (text : String) (b : Bench) :
    (readLoop marker deadline heeds window text b).1.clock = b.clock ∨
      (readLoop marker deadline heeds window text b).1.clock < deadline + 1 := by
  fun_induction readLoop marker deadline heeds window text b with
  | case1 | case6 | case7 => exact .inl rfl
  | case2 window text b _ chunk session taken count inside after fault refused
  | case3 window text b _ chunk session taken count inside after fault refused =>
    have now := clock_recordMarked b chunk session count
    rw [refused] at now
    exact .inl now
  | case4 => exact .inl (clock_recordChunk _ _ _)
  | case5 window text b _ chunk session taken passed recorded ih =>
    rwa [clock_recordChunk] at ih
  | case8 window text b _ taken _ left ih =>
    exact .inr (ih.elim (·.trans_lt (clock_waitForOutput_lt heeds left)) id)

theorem clock_drainLoop (deadline : Millis) (text : String) (b : Bench) :
    (drainLoop deadline text b).1.clock = b.clock ∨
      (drainLoop deadline text b).1.clock < deadline + 1 := by
  fun_induction drainLoop deadline text b with
  | case1 => exact .inl (clock_recordChunk _ _ _)
  | case2 text b chunk session taken recorded ih => rwa [clock_recordChunk] at ih
  | case3 | case4 => exact .inl rfl
  | case5 text b taken _ left ih =>
    exact .inr (ih.elim (·.trans_lt (clock_waitForOutput_lt false left)) id)

theorem clock_drain_lt (b : Bench) {limit : Millis} (nonneg : 0 ≤ limit) :
    (b.drain limit).1.clock < b.clock + limit + 1 := by
  rcases clock_drainLoop (b.clock + limit) "" b with same | before
  · rw [drain, same]; linarith
  · exact before

end Bench

end ConsoleHarness
