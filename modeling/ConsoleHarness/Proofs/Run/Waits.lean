import ConsoleHarness.Proofs.Bench.Going
import ConsoleHarness.Proofs.Run.Course

/-! # What runs leave behind

A run starts on an empty registry, and the pauses of a run are its only ones, so behind it nothing
is registered any more.  It listens to its cancellation in one place and stops listening there,
however it ends: what others listen to is as it was before (`RunSetup.restores`).
-/

namespace ConsoleHarness

/-- No pause is open, and each that there was has been resolved once. -/
structure Registry.Quiet (r : Registry) : Prop where
  timers : r.timers = []
  waiters : r.waiters = []
  abortListeners : r.abortListeners = []
  once : ∀ n < r.nextPause, r.resolved.count n = 1

theorem Registry.Releases.quiet {r : Registry} (releases : Releases {} r) : r.Quiet where
  timers := releases.timers
  waiters := releases.waiters
  abortListeners := releases.abortListeners
  once n := releases.once n n.zero_le

namespace Bench

theorem releases_calls (target : Target) (calls : List (Bool × Call)) :
    Registry.Releases {} ((launch target).calls calls).registry := by
  have goes := goes_calls (launch target) calls
  obtain ⟨agenda, launched⟩ := exists_launch target
  rw [launched] at goes ⊢
  exact goes.releases Registry.orderly_empty

/-! ## The session of a run -/

theorem goes_runStarted (b : Bench) (config : Config) : Goes b (b.runStarted config).1 := by
  have scripted := goes_runScript b config.script true true
  unfold runStarted afterScript
  split
  · rename_i same; rw [same] at scripted; exact scripted
  · rename_i c outcome same
    rw [same] at scripted
    have settled := scripted.trans (goes_settle c outcome.status config.timeouts true true)
    split
    · rename_i same; rw [same] at settled; exact settled
    · rename_i same
      rw [same] at settled
      dsimp only
      split
      · exact settled
      · dsimp only
        exact settled.trans (goes_log _ _ _ _)

theorem goes_neverLeave (b : Bench) : Goes b b.neverLeave := by
  unfold neverLeave
  split
  · exact goes_kill b "SIGKILL"
  · exact .refl

theorem goes_runSession (b : Bench) (config : Config) : Goes b (b.runSession config).1 := by
  have started := goes_start b
  unfold runSession
  split
  · rename_i same; rw [same] at started; exact started
  · rename_i same
    rw [same] at started
    exact (started.trans (goes_runStarted _ config)).trans (goes_neverLeave _)

end Bench

/-! ## Listeners -/

/-- An installation that is taken back leaves the listeners that there were before. -/
theorem Interrupts.listening_dispose_install (i : Interrupts) (controller : Nat)
    (signals : List String) (signal : String) :
    ((i.install controller signals).dispose i.installations.length).listening signal =
      i.listening signal := by
  simp [listening, dispose, install, List.modify_eq_take_drop]

namespace Outside

variable {o : Outside}

/-- The run is taken off the listeners if it is one of them. -/
theorem listeners_unlisten (single : o.listeners.count .run ≤ 1) :
    o.unlisten.listeners = o.listeners.filter (· ≠ .run) := by
  have gone : ∀ listener ∈ o.listeners.erase .run, listener ≠ .run := by
    intro listener member run
    have left := List.count_pos_iff.mpr (run ▸ member)
    rw [List.count_erase_self] at left
    omega
  rw [← Registry.filter_erase_of_neg (a := .run) (by simp)]
  exact (List.filter_eq_self.mpr fun listener member => by simpa using gone listener member).symm

end Outside

namespace RunSetup

variable {setup : RunSetup} {target : Target} {b : Bench}

theorem registry_opening (setup : RunSetup) (target : Target) :
    (setup.opening target).registry = {} := by
  obtain ⟨agenda, launched⟩ := Bench.exists_launch target
  rw [opening, launched]
  cases setup.cancellation with
  | given aborted => cases aborted <;> rfl
  | processSignals name => rfl

/-- Where a run looks for its cancellation, and what that has added to the surroundings. -/
inductive Attached (setup : RunSetup) (b : Bench) : Prop
  | cancelled (route : b.route = .forwarded) (outside : b.outside = setup.outside)
  | listening (route : b.route = .forwarded) (outside : b.outside = setup.outside.listen)
  | installed {name} (route : b.route = .processSignal name setup.interrupts.installations.length)
      (outside : b.outside = setup.outside.install)

theorem attached_opening (setup : RunSetup) (target : Target) :
    Attached setup (setup.opening target) := by
  rw [opening]
  cases setup.cancellation with
  | given aborted =>
    cases aborted with
    | true => exact .cancelled rfl rfl
    | false => exact .listening rfl rfl
  | processSignals name => exact .installed rfl rfl

theorem filter_others (setup : RunSetup) :
    setup.outside.listeners.filter (· ≠ .run) = setup.outside.listeners :=
  List.filter_eq_self.mpr (by simp [outside])

theorem count_others (setup : RunSetup) : setup.outside.listeners.count .run = 0 :=
  List.count_eq_zero.mpr (by simp [outside])

/-- Whatever the run went through, what it listened to has the listeners that it had before. -/
theorem restores {a : Bench} (attached : Attached setup a) (steady : Bench.Steady a b) :
    b.detach.outside.listeners = setup.listeners.map .other ∧
      ∀ signal, b.detach.outside.interrupts.listening signal =
        setup.interrupts.listening signal := by
  have others := setup.filter_others
  have none := setup.count_others
  have own := steady.own
  cases attached with
  | cancelled route outside | listening route outside =>
    -- The listener is removed, be it that it is still there or that it was used up.
    have detached : b.detach.outside = b.outside.unlisten := by
      simp [Bench.detach, steady.route.trans route]
    have single : b.outside.listeners.count .run ≤ 1 := by
      rw [outside] at own
      exact own.trans (by simp [Outside.listen, none])
    rw [detached, Outside.listeners_unlisten single, steady.others, outside]
    refine ⟨?_, fun signal => ?_⟩
    · simp only [Outside.listen, List.filter_append, others]
      simp [RunSetup.outside]
    · simp only [Outside.unlisten, steady.interrupts, outside]
      rfl
  | @installed name route outside =>
    have detached : b.detach.outside = b.outside.dispose setup.interrupts.installations.length := by
      simp [Bench.detach, steady.route.trans route]
    have absent : Outside.Listener.run ∉ b.outside.listeners := by
      rw [outside] at own
      exact List.count_eq_zero.mp (Nat.le_zero.mp (own.trans none.le))
    have same : b.outside.listeners.filter (· ≠ .run) = b.outside.listeners :=
      List.filter_eq_self.mpr fun listener member => by
        simpa using ne_of_mem_of_not_mem member absent
    rw [detached]
    refine ⟨?_, fun signal => ?_⟩
    · exact (same.symm.trans (steady.others.trans (by rw [outside]; rfl))).trans others
    · rw [Outside.dispose, steady.interrupts, outside]
      exact Interrupts.listening_dispose_install _ _ _ signal

/-- Behind a session, a run tells what came of it, and no more. -/
theorem surroundings_ending (setup : RunSetup) (files : Files) (b : Bench)
    (result : Except Fault Bench.SessionRun) :
    (setup.ending files (b, result)).bench.registry = b.registry ∧
      (setup.ending files (b, result)).bench.outside = b.outside := by
  have ended := evolves_ending setup files b result
  have still : ∀ deed ∈ [Deed.tell], ∀ b c, Bench.Step deed b c →
      c.registry = b.registry ∧ c.route = b.route ∧ c.outside = b.outside :=
    fun _ member _ _ step => step.surroundings (by simp [List.mem_singleton.mp member])
  exact ⟨ended.frame (·.registry) fun deed member b c step => (still deed member b c step).1,
    ended.frame (·.outside) fun deed member b c step => (still deed member b c step).2.2⟩

/-- A run comes from its opening by what goes on in a session, stops listening, and tells what came
of it. -/
theorem exists_goes_run (setup : RunSetup) (files : Files) :
    ∃ target b, Bench.Goes (setup.opening target) b ∧
      (setup.run files).bench.registry = b.registry ∧
      (setup.run files).bench.outside = b.detach.outside := by
  unfold run
  split
  · exact ⟨{}, setup.opening {}, .refl, rfl, rfl⟩
  · rename_i target launched
    obtain ⟨registry, outside⟩ := surroundings_ending setup files
      ((setup.opening target).runSession setup.config).1.detach
      ((setup.opening target).runSession setup.config).2
    exact ⟨target, _, Bench.goes_runSession _ setup.config, registry, outside⟩

end RunSetup

/-- Waits release what they take.

Whatever stimuli follow in whatever order, a pause that is registered is resolved once if one of them
is what it waits for, and then the registry has released it; otherwise it is not resolved.  Every wait
on every bench has released what it took once it is over, and so have all waits that a call is made of.
Behind any sequence of calls and behind any run, be it that it returned or that a fault ended it, no
pause is open; and a run leaves the listeners of the signal that it was given, and those of signals to
its process, as they were. -/
theorem waits_release_what_they_take :
    (∀ r : Registry, r.Orderly → ∀ (w : Bench.Wait) (due : Option Millis)
        (stimuli : List Stimulus),
      let after := stimuli.foldl Registry.hear (r.enlist w due)
      if stimuli.any (w.heeds due.isSome r.nextPause) then
        after.resolved.count r.nextPause = 1 ∧ r.Releases after
      else after.resolved.count r.nextPause = 0) ∧
    (∀ b : Bench, b.registry.Orderly → ∀ (limit : Millis) (heeds logs : Bool) (marker : String),
      b.registry.Releases (b.waitForOutput limit heeds).registry ∧
      b.registry.Releases (b.settleDelay limit heeds).registry ∧
      b.registry.Releases (b.awaitExit limit heeds).1.registry ∧
      b.registry.Releases (b.forceTerminate limit logs).1.registry ∧
      b.registry.Releases (b.readUntil marker limit heeds).1.registry) ∧
    (∀ (target : Target) (calls : List (Bool × Call)),
      ((Bench.launch target).calls calls).registry.Orderly ∧
      ((Bench.launch target).calls calls).registry.Quiet) ∧
    ∀ (setup : RunSetup) (files : Files),
      (setup.run files).bench.registry.Quiet ∧
      (setup.run files).bench.outside.listeners = setup.listeners.map .other ∧
      ∀ signal, (setup.run files).bench.outside.interrupts.listening signal =
        setup.interrupts.listening signal := by
  refine ⟨fun r orderly w due stimuli => ?_, fun b orderly limit heeds logs marker => ?_,
    fun target calls => ?_, fun setup files => ?_⟩
  · have enlisted := orderly.enlist w due
    have released := Registry.Releases.foldl_hear enlisted stimuli
    have told := (Registry.waits_enlist orderly w due).foldl_hear enlisted stimuli
    dsimp only
    cases heeded : stimuli.any (w.heeds due.isSome r.nextPause) with
    | true =>
      rw [if_pos heeded] at told
      exact ⟨released.orderly.count_eq_one told, released.of_enlist told⟩
    | false =>
      rw [if_neg (by simp [heeded])] at told
      exact List.count_eq_zero.mpr told.pending
  · exact ⟨(Bench.goes_waitForOutput b limit heeds).releases orderly,
      (Bench.goes_settleDelay b limit heeds).releases orderly,
      (Bench.goes_awaitExit b limit heeds).releases orderly,
      (Bench.goes_forceTerminate b limit logs).releases orderly,
      (Bench.goes_readUntil b marker limit heeds).releases orderly⟩
  · have released := Bench.releases_calls target calls
    exact ⟨released.orderly, released.quiet⟩
  · obtain ⟨target, b, goes, registry, outside⟩ := setup.exists_goes_run files
    have orderly : (setup.opening target).registry.Orderly := by
      rw [setup.registry_opening]; exact Registry.orderly_empty
    have released := goes.releases orderly
    rw [setup.registry_opening, ← registry] at released
    rw [outside]
    exact ⟨released.quiet, RunSetup.restores (setup.attached_opening target) goes.steady⟩

/-- Everything that can end a pause happens at once, and it is over once; a wait for output on a bench
that nothing has happened to is ended by its timer. -/
theorem waits_release_at_the_start :
    Registry.Orderly {} ∧
    (let after := [Stimulus.abort, .output, .exit, .timer 0].foldl Registry.hear
        (Registry.enlist {} { timer := some 5, output := true, exit := true, abort := true }
          (some 5));
      after.resolved.count 0 = 1 ∧ Registry.Releases {} after) ∧
    Registry.Releases {} (({} : Bench).waitForOutput 5 true).registry := by
  obtain ⟨stimuli, waits, -⟩ := waits_release_what_they_take
  refine ⟨Registry.orderly_empty, ?_, ?_⟩
  · exact stimuli {} Registry.orderly_empty
      { timer := some 5, output := true, exit := true, abort := true } (some 5)
      [.abort, .output, .exit, .timer 0]
  · exact (waits {} Registry.orderly_empty 5 true true "").1

end ConsoleHarness
