import ConsoleHarness.Proofs.Bench.Handshake
import ConsoleHarness.Proofs.Bench.Settling

/-! # The course of a run

A run that has launched its target goes through the same stages whatever happens: the session
starts, the script runs, the session is brought to its end, and the target is not left behind.  A
fault can only come from an empty prompt.
-/

namespace ConsoleHarness

namespace Bench

/-- With an open transcript, every session is brought to its end. -/
theorem settle_eq_ok {b : Bench} (opened : b.session.transcript.isSealed = false)
    (status : ScriptStatus) (timeouts : Timeouts) (heeds logs : Bool) :
    ∃ c settled, b.settle status timeouts heeds logs = (c, .ok settled) ∧
      settled.state.isTerminal = true := by
  obtain ⟨m, _, _, _, _, _, done⟩ := settle_spec opened status timeouts heeds logs
  exact ⟨_, _, done, isTerminal_finish m⟩

/-- After a script the target is dismissed, and the session brought to its end. -/
theorem evolves_afterScript_of_dismiss (m : Bench) (outcome : ScriptOutcome) (config : Config) :
    Evolves [.world, .consume, .seal, .tell]
      (m.dismiss outcome.status config.timeouts true true).1
      (afterScript config (m, .ok outcome)).1 := by
  have settled : Evolves [.world, .consume, .seal, .tell]
      (m.dismiss outcome.status config.timeouts true true).1 _ :=
    (evolves_settle_of_dismiss m outcome.status config.timeouts true true).mono (by simp)
  simp only [afterScript]
  split
  · rename_i same; rw [same] at settled; exact settled
  · rename_i same
    rw [same] at settled
    split
    · exact settled
    · exact Evolves.trans settled ((evolves_log _ true .error _).mono (by simp))

/-- After a script, a session is only brought to its end. -/
theorem evolves_afterScript (config : Config) (m : Bench) (result : Except Fault ScriptOutcome) :
    Evolves settleDeeds m (afterScript config (m, result)).1 := by
  cases result with
  | error fault => exact .refl
  | ok outcome =>
    have dismissed := evolves_dismiss m outcome.status config.timeouts true true
    exact (dismissed.mono (by simp)).trans
      ((evolves_afterScript_of_dismiss m outcome config).mono (by simp))

/-- A session runs its script, and then dismisses its target, unless the script raised a fault. -/
theorem runStarted_cases (b : Bench) (config : Config) :
    (∃ m fault, b.runScript config.script true true = (m, .error fault) ∧
        b.runStarted config = (m, .error fault)) ∨
      ∃ m outcome, b.runScript config.script true true = (m, .ok outcome) ∧
        Evolves [.world, .consume, .seal, .tell]
          (m.dismiss outcome.status config.timeouts true true).1 (b.runStarted config).1 := by
  rw [runStarted]
  cases scripted : b.runScript config.script true true with
  | mk m result =>
    cases result with
    | error fault => exact .inl ⟨m, fault, rfl, rfl⟩
    | ok outcome => exact .inr ⟨m, outcome, rfl, evolves_afterScript_of_dismiss m outcome config⟩

theorem evolves_runStarted_of_runScript {b m : Bench} {config : Config}
    {result : Except Fault ScriptOutcome}
    (scripted : b.runScript config.script true true = (m, result)) :
    Evolves settleDeeds m (b.runStarted config).1 := by
  rw [runStarted, scripted]
  exact evolves_afterScript config m result

theorem evolves_runStarted (b : Bench) (config : Config) :
    Evolves Deed.all b (b.runStarted config).1 := by
  have script := evolves_runScript b config.script true true
  cases scripted : b.runScript config.script true true with
  | mk m result =>
    rw [scripted] at script
    exact (script.mono (by decide)).trans
      ((evolves_runStarted_of_runScript scripted).mono (by decide))

/-- With a prompt to wait for, script and end of a fresh session raise no fault. -/
theorem runStarted_eq_ok {b : Bench} (fresh : b.Fresh) {config : Config}
    (filled : config.script.prompt ≠ "") :
    ∃ c run, b.runStarted config = (c, .ok run) ∧ run.settled.state.isTerminal = true := by
  obtain ⟨m, outcome, scripted, _⟩ := runScript_handshake fresh filled true true
  have evolves := evolves_runScript b config.script true true
  rw [scripted] at evolves
  have opened : m.session.transcript.isSealed = false :=
    (evolves.isSealed_eq (by simp)).trans (fresh.onScript config.script.prompt).opened
  obtain ⟨c, settled, done, terminal⟩ :=
    settle_eq_ok opened outcome.status config.timeouts true true
  rw [runStarted, scripted]
  simp only [afterScript, done]
  split
  · exact ⟨_, _, rfl, terminal⟩
  · exact ⟨_, _, rfl, terminal⟩

/-- The session of a target that has said something, but no prompt, and is gone. -/
theorem runStarted_of_hungUp {b gone : Bench} {config : Config} {text : String} {elapsed : Millis}
    (read : (b.log true .info "Waiting for shell...").readUntil config.script.prompt
      config.script.bootTimeout true = (gone, .ok ⟨.closed, text, elapsed⟩))
    (hung : gone.HungUp) {exit : Exit} (exited : gone.session.exit = some exit)
    (clean : exit.failure = none) :
    ∃ c state, b.runStarted config =
      (c, .ok
        { settled := ⟨state, gone.session.transcript.text, []⟩
          status := .aborted
          incidents := [.outputClosed .boot] }) := by
  obtain ⟨-, empty, closed⟩ := hung
  -- The target is gone already, so getting rid of it takes a line of the log.
  let stopped := gone.log true .warn (Incident.outputClosed .boot).message
  let dismissed := stopped.log true .warn "Script did not complete, killing emulator..."
  have scripted : b.runScript config.script true true =
      (stopped, .ok (.stopped [] (.outputClosed .boot))) := by
    rw [runScript, read]
    rfl
  have same : dismissed.session = gone.session := rfl
  have spared : stopped.dismiss .aborted config.timeouts true true = (dismissed, []) := by
    have known : dismissed.session.exit.isSome = true := by rw [same, exited]; rfl
    simp only [dismiss, forceTerminate]
    rw [if_pos known]
  have drained : dismissed.drain config.timeouts.drain = (dismissed, .ok "") :=
    drain_of_closed (by rw [same, empty]) (by rw [same, closed]) _
  have finished : dismissed.finish.session = gone.session.finish := rfl
  have settles : stopped.settle .aborted config.timeouts true true =
      (dismissed.finish, .ok ⟨gone.session.finish.state, gone.session.transcript.text, []⟩) := by
    simp only [settle, spared, drained, finished]
    rfl
  have launched : dismissed.finish.session.exit.bind (·.failure) = none := by
    show gone.session.exit.bind (·.failure) = none
    rw [exited]
    exact clean
  have status : (ScriptOutcome.stopped [] (.outputClosed .boot)).status = .aborted := rfl
  refine ⟨dismissed.finish, gone.session.finish.state, ?_⟩
  rw [runStarted, scripted, afterScript, status, settles]
  dsimp only
  rw [launched]
  rfl

/-- The incident of a launch that has failed, as the session knows it now. -/
def launchIncidents (b : Bench) (command : String) : List Incident :=
  (b.session.exit.bind (·.failure)).toList.map (.launchFailed command)

/-- A session that came to its end has gone through a script and a settlement, and reports the
incidents of both. -/
theorem runStarted_ok {b d : Bench} {config : Config} {run : SessionRun}
    (done : b.runStarted config = (d, .ok run)) :
    ∃ m outcome c settled, b.runScript config.script true true = (m, .ok outcome) ∧
      m.settle outcome.status config.timeouts true true = (c, .ok settled) ∧ Evolves [.tell] c d ∧
      run =
        { settled
          status := outcome.status
          incidents := c.launchIncidents config.emulator.command ++
            (outcome.incidents ++ settled.incidents) } := by
  simp only [runStarted, afterScript] at done
  split at done
  · simp at done
  · rename_i m outcome scripted
    split at done
    · simp at done
    · rename_i c settled settles
      refine ⟨m, outcome, c, settled, scripted, settles, ?_⟩
      cases failed : c.session.exit.bind (·.failure) with
      | none =>
        rw [failed] at done
        obtain ⟨rfl, same⟩ := Prod.mk.inj done
        exact ⟨.refl, by rw [← Except.ok.inj same, launchIncidents, failed]; rfl⟩
      | some reason =>
        rw [failed] at done
        obtain ⟨rfl, same⟩ := Prod.mk.inj done
        exact ⟨evolves_log _ _ _ _, by rw [← Except.ok.inj same, launchIncidents, failed]; rfl⟩

/-! ## The end -/

theorem evolves_printLines (b : Bench) (lines : List String) :
    Evolves [.tell] b (b.printLines lines) := by
  unfold printLines
  induction lines generalizing b with
  | nil => exact .refl
  | cons line rest ih => exact (Evolves.single .print).trans (ih _)

theorem evolves_conclude (b : Bench) (files : Files) (setup : RunSetup) (run : SessionRun) :
    Evolves [.tell] b (b.conclude files setup run).1 := by
  have kept : Evolves [.tell] b (b.keep files setup run.settled.transcript).1 := by
    unfold keep
    dsimp only
    split
    · exact .refl
    · dsimp only
      exact evolves_log b true .error _
  unfold conclude
  dsimp only
  exact kept.trans (evolves_printLines _ _)

end Bench

namespace RunSetup

variable {setup : RunSetup} {target : Target}

theorem evolves_opening (setup : RunSetup) (target : Target) :
    Bench.Evolves [.world, .tell] { target } (setup.opening target) := by
  let b := Bench.launch target
  have launched : Bench.Alike { target } { b with outside := setup.outside } :=
    (Bench.alike_launch target).trans (.around b b.agenda b.registry b.route setup.outside)
  have attached := launched.passes.trans
    (Bench.passes_attach launched.aborted setup.cancellation)
  exact (attached.mono (by simp)).trans ((Bench.evolves_log _ _ _ _).mono (by simp))

/-- The session of a run can always start. -/
theorem start_opening (setup : RunSetup) (target : Target) :
    ∃ b, (setup.opening target).start = (b, .ok ()) ∧ b.Fresh := by
  have opened := evolves_opening setup target
  have created : (setup.opening target).session.state = .created :=
    opened.state_eq (by simp) (by simp)
  have started := Bench.evolves_start (setup.opening target)
  refine ⟨(setup.opening target).start.1, ?_, ?_, target, ?_⟩
  · simp [Bench.start, Session.start, created]
  · simp [Bench.start, Session.start, created]
  · exact (opened.mono (by simp)).trans (started.mono (by simp))

/-- A run with a launched target, from the start of its session on. -/
theorem run_eq (launched : setup.launched = .ok target) {b : Bench}
    (started : (setup.opening target).start = (b, .ok ())) (files : Files) :
    setup.run files =
      setup.ending files
        ((b.runStarted setup.config).map (Bench.detach ∘ Bench.neverLeave) id) := by
  unfold run
  rw [launched]
  dsimp only
  rw [Bench.runSession, started]
  rfl

theorem evolves_ending (setup : RunSetup) (files : Files) (b : Bench)
    (result : Except Fault Bench.SessionRun) :
    Bench.Evolves [.tell] b (setup.ending files (b, result)).bench := by
  cases result with
  | error fault => exact .refl
  | ok run =>
    have concluded := Bench.evolves_conclude b files setup run
    unfold ending
    dsimp only
    exact concluded

/-- Once the target cannot be left behind any more, a run only tells what came of it. -/
theorem evolves_ending_of_neverLeave (setup : RunSetup) (files : Files)
    (result : Bench × Except Fault Bench.SessionRun) :
    Bench.Evolves [.world, .tell] result.1.neverLeave
      (setup.ending files (result.map (Bench.detach ∘ Bench.neverLeave) id)).bench := by
  obtain ⟨c, result⟩ := result
  have detached : Bench.Evolves [.world, .tell] c.neverLeave c.neverLeave.detach :=
    .of_passes Bench.Alike.detach.passes (by simp)
  have ended := evolves_ending setup files c.neverLeave.detach result
  exact detached.trans (ended.mono (by simp))

theorem evolves_run (launched : setup.launched = .ok target) {b : Bench}
    (started : (setup.opening target).start = (b, .ok ())) (files : Files) :
    Bench.Evolves [.world, .tell] (b.runStarted setup.config).1.neverLeave
      (setup.run files).bench := by
  rw [run_eq launched started]
  exact evolves_ending_of_neverLeave setup files _

end RunSetup

end ConsoleHarness
