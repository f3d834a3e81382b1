import ConsoleHarness.Proofs.Run.Interrupt
import ConsoleHarness.Proofs.Run.Verdict

/-! # The incidents of a run

A run collects its incidents at three places: its script tells why it was stopped, the settlement
tells what its wait for the exit came to, and a launch that failed is told first.  Only one of the
first two can have something to tell, since a target is waited for only behind a script that was
completed.  `RunSetup.Stages` names what a run that has come to its report has gone through, and
`RunSetup.Explained` says how its incidents follow from that.
-/

namespace ConsoleHarness

namespace RunSetup

section Stages

variable {setup : RunSetup} {target : Target} {files : Files} {report : RunReport}
  {b m c : Bench} {outcome : ScriptOutcome} {settled : Settled}

theorem opening_untouched (setup : RunSetup) (target : Target) :
    (setup.opening target).wire = (Bench.launch target).wire ∧
      (setup.opening target).session = (Bench.launch target).session := by
  simp only [opening]
  cases setup.cancellation with
  | given aborted => cases aborted <;> exact ⟨rfl, rfl⟩
  | processSignals name => exact ⟨rfl, rfl⟩

/-- No exit is known when the session of a run starts, and none is on the wire. -/
theorem linked_started (started : (setup.opening target).start = (b, .ok ())) : b.Linked := by
  obtain ⟨wire, session⟩ := opening_untouched setup target
  rw [Bench.wire_launch] at wire
  rw [(Bench.alike_launch target).session] at session
  obtain rfl : (setup.opening target).start.1 = b := by rw [started]
  simp only [Bench.start, session, Session.start]
  exact ⟨by simp, by simp [wire], by simp⟩

/-- What a run that has come to its report has gone through: its session started at `b`, its script
ended at `m`, and its session was settled at `c`. -/
structure Stages (setup : RunSetup) (target : Target) (files : Files) (report : RunReport)
    (b m : Bench) (outcome : ScriptOutcome) (c : Bench) (settled : Settled) : Prop where
  started : (setup.opening target).start = (b, .ok ())
  scripted : b.runScript setup.config.script true true = (m, .ok outcome)
  settles : m.settle outcome.status setup.config.timeouts true true = (c, .ok settled)
  ended : Bench.Evolves [.world, .kill, .tell] c (setup.run files).bench
  status : report.status = outcome.status
  state : report.state = settled.state
  incidents : report.incidents =
    c.launchIncidents setup.config.emulator.command ++ (outcome.incidents ++ settled.incidents)

/-- A report is that of the stages that the run has gone through. -/
theorem exists_reported (launched : setup.launched = .ok target)
    (done : (setup.run files).report = .ok report) :
    ∃ b m outcome c settled, Stages setup target files report b m outcome c settled ∧
      report.transcript = settled.transcript := by
  obtain ⟨b, started, _⟩ := start_opening setup target
  have ended := evolves_run launched started files
  have course := run_eq launched started files
  cases result : b.runStarted setup.config with
  | mk d answer =>
    rw [result] at course ended
    rw [course] at done
    cases answer with
    | error fault => contradiction
    | ok run =>
      obtain ⟨m, outcome, c, settled, scripted, settles, told, rfl⟩ := Bench.runStarted_ok result
      have onward : Bench.Evolves [.world, .kill, .tell] c (setup.run files).bench :=
        ((told.mono (by simp)).trans ((Bench.evolves_neverLeave d).mono (by simp))).trans
          (ended.mono (by simp))
      -- The report is the same whether or not the transcript could be kept.
      rcases ending_cases setup files d.neverLeave.detach _ with ⟨path, kept, -⟩ | ⟨_, lost, -⟩
      · obtain rfl := Except.ok.inj (done.symm.trans kept)
        exact ⟨b, m, outcome, c, settled, ⟨started, scripted, settles, onward, rfl, rfl, rfl⟩, rfl⟩
      · obtain rfl := Except.ok.inj (done.symm.trans lost)
        exact ⟨b, m, outcome, c, settled, ⟨started, scripted, settles, onward, rfl, rfl, rfl⟩, rfl⟩

theorem exists_stages (launched : setup.launched = .ok target)
    (done : (setup.run files).report = .ok report) :
    ∃ b m outcome c settled, Stages setup target files report b m outcome c settled := by
  obtain ⟨b, m, outcome, c, settled, stages, -⟩ := exists_reported launched done
  exact ⟨b, m, outcome, c, settled, stages⟩

namespace Stages

variable (stages : Stages setup target files report b m outcome c settled)
include stages

theorem filled : setup.config.script.prompt ≠ "" := by
  intro empty
  have scripted := stages.scripted
  simp [Bench.runScript, Bench.readUntil, empty] at scripted

theorem fresh : b.Fresh := by
  obtain ⟨other, started, fresh⟩ := start_opening setup target
  obtain ⟨rfl, -⟩ := Prod.mk.inj (started.symm.trans stages.started)
  exact fresh

theorem evolves_script : Bench.Evolves Bench.scriptDeeds b m := by
  have script := Bench.evolves_runScript b setup.config.script true true
  rw [stages.scripted] at script
  exact script

theorem evolves_settle : Bench.Evolves Bench.settleDeeds m c := by
  have settled := Bench.evolves_settle m outcome.status setup.config.timeouts true true
  rw [stages.settles] at settled
  exact settled

theorem accounted : c.Accounted := by
  have begun : Bench.Evolves [.world, .start, .consume, .prompt, .write, .tell] { target } m :=
    ((evolves_started stages.started).mono (by simp)).trans (stages.evolves_script.mono (by simp))
  have unasked : m.session.killRequested = false := begun.killRequested_eq (by simp)
  have kept := ((Bench.accounted_launch target).aside begun (by simp)).settle unasked
    outcome.status setup.config.timeouts true true
  rw [stages.settles] at kept
  exact kept

theorem requested (asked : c.session.killRequested = true) :
    c.Saw (.killed "SIGKILL" true) :=
  stages.accounted.requested asked

theorem opened : m.session.transcript.isSealed = false :=
  (stages.evolves_script.isSealed_eq (by simp)).trans
    (stages.fresh.onScript setup.config.script.prompt).opened

theorem running : m.session.state = .running :=
  (stages.evolves_script.state_eq (by simp) (by simp)).trans stages.fresh.1

theorem handshake : Bench.Handshake setup.config.script true m outcome := by
  obtain ⟨n, told, scripted, shaken⟩ :=
    Bench.runScript_handshake stages.fresh stages.filled true true
  obtain ⟨rfl, same⟩ := Prod.mk.inj (scripted.symm.trans stages.scripted)
  obtain rfl := Except.ok.inj same
  exact shaken

theorem obeys : m.Obeys ∧ m.Concludes outcome := by
  have ends := (obeys_started stages.started).runScript setup.config.script true
  rw [stages.scripted] at ends
  exact ⟨ends.1, ends.2 outcome rfl⟩

/-- The settlement reports what its wait for the exit came to, if there was one. -/
theorem settled_incidents :
    settled.incidents = (m.exitWait outcome.status setup.config.timeouts.exit true).elim []
      (ExitWait.incidents setup.config.timeouts.exit) := by
  obtain ⟨n, more, -, -, -, -, done⟩ :=
    Bench.settle_spec stages.opened outcome.status setup.config.timeouts true true
  obtain ⟨-, same⟩ := Prod.mk.inj (done.symm.trans stages.settles)
  obtain rfl := Except.ok.inj same
  exact (Bench.dismissed_dismiss m outcome.status setup.config.timeouts true true).incidents

theorem written : writtenIn (setup.run files).bench.history = outcome.sent.map (· ++ "\n") := by
  rw [stages.ended.writtenIn_eq (by simp), stages.evolves_settle.writtenIn_eq (by simp),
    stages.handshake.written]

/-- A script completes if and only if all its lines were written in a run that goes on. -/
theorem completed_iff :
    outcome.status = .completed ↔
      writtenIn (setup.run files).bench.history = setup.config.script.lines.map (· ++ "\n") ∧
        ¬ m.Saw .aborted := by
  have lines : outcome.sent.map (· ++ "\n") = setup.config.script.lines.map (· ++ "\n") ↔
      outcome.sent = setup.config.script.lines :=
    List.map_inj_right fun first second same => (String.append_left_inj "\n").mp same
  have heard : m.aborted = true ↔ m.Saw .aborted := stages.obeys.1.heard
  rw [stages.handshake.completed, stages.written, lines, Bool.true_and, ← Bool.not_eq_true, heard]

theorem exit_known
    (exited : m.exitWait outcome.status setup.config.timeouts.exit true = some .exited) :
    ∃ exit, (m.awaitExit setup.config.timeouts.exit true).1.session.exit = some exit ∧
      c.session.exit = some exit := by
  have linked : m.Linked := by
    have ran := (linked_started stages.started).runScript setup.config.script true true
    rw [stages.scripted] at ran
    exact ran
  have settled := Bench.evolves_settle_of_awaitExit m setup.config.timeouts true true
  have settles := stages.settles
  rw [Bench.status_of_exitWait exited] at settles exited
  rw [settles] at settled
  have known := linked.exit_of_awaitExit (Option.some.inj exited)
  obtain ⟨exit, known⟩ := Option.isSome_iff_exists.mp known
  exact ⟨exit, known, settled.exit_stays known⟩

/-- A script that did not complete tells why, and is the only one to tell something. -/
theorem stopped (unfinished : outcome.status ≠ .completed) :
    settled.incidents = [] ∧ ∃ incident, outcome.incidents = [incident] ∧
      incident.kind ∈ [.interrupted, .bootTimeout, .promptTimeout, .streamClosed] ∧
      (incident.kind = .interrupted ↔ outcome.status = .interrupted) := by
  have unasked := Bench.exitWait_eq_none unfinished m setup.config.timeouts.exit true
  refine ⟨by rw [stages.settled_incidents, unasked]; rfl, ?_⟩
  cases stages.obeys.2 with
  | completed => contradiction
  | @stopped sent incident kind told =>
    exact ⟨incident, rfl, kind, (Bench.status_stopped_eq_interrupted sent incident).symm⟩

/-- Behind a script that completed only the wait for the exit has something to tell. -/
theorem completed (finished : outcome.status = .completed) :
    outcome.incidents = [] ∧
      settled.incidents =
        (m.awaitExit setup.config.timeouts.exit true).2.incidents setup.config.timeouts.exit := by
  have asked : m.exitWait outcome.status setup.config.timeouts.exit true =
      some (m.awaitExit setup.config.timeouts.exit true).2 := by rw [finished]; rfl
  refine ⟨?_, by rw [stages.settled_incidents, asked]; rfl⟩
  cases stages.obeys.2 with
  | completed => rfl
  | stopped => exact absurd finished (Bench.status_stopped_ne _ _)

/-- A run without incidents completed its script, saw its target exit in time and without a
failure. -/
theorem quiet_iff :
    report.incidents = [] ↔
      m.exitWait outcome.status setup.config.timeouts.exit true = some .exited ∧
        ∃ exit, (m.awaitExit setup.config.timeouts.exit true).1.session.exit = some exit ∧
          exit.failure = none := by
  rw [stages.incidents, List.append_eq_nil_iff, List.append_eq_nil_iff]
  constructor
  · rintro ⟨launched, noStop, noWait⟩
    have finished : outcome.status = .completed := by
      by_contra unfinished
      obtain ⟨-, incident, told, -⟩ := stages.stopped unfinished
      rw [told] at noStop
      contradiction
    have answer := (stages.completed finished).2.symm.trans noWait
    have exited : m.exitWait outcome.status setup.config.timeouts.exit true = some .exited := by
      rw [finished, Bench.exitWait]
      cases waited : (m.awaitExit setup.config.timeouts.exit true).2 with
      | exited => rfl
      | timeout | interrupted =>
        rw [waited] at answer
        contradiction
    obtain ⟨exit, known, stays⟩ := stages.exit_known exited
    refine ⟨exited, exit, known, ?_⟩
    -- The exit at the end of the settlement is the one that ended the wait.
    simpa [Bench.launchIncidents, stays] using launched
  · rintro ⟨exited, exit, known, sound⟩
    obtain ⟨other, same, stays⟩ := stages.exit_known exited
    obtain rfl := Option.some.inj (known.symm.trans same)
    have finished := Bench.status_of_exitWait exited
    refine ⟨by simp [Bench.launchIncidents, stays, sound], (stages.completed finished).1, ?_⟩
    rw [stages.settled_incidents, exited]
    rfl

theorem unkilled (launched : setup.launched = .ok target) (quiet : report.incidents = []) :
    report.state = .completed ∧
      ∀ name delivered, ¬ (setup.run files).bench.Saw (.killed name delivered) := by
  obtain ⟨exited, exit, known, -⟩ := stages.quiet_iff.mp quiet
  have spared := unkilled_run launched stages.started stages.scripted
    (Bench.status_of_exitWait exited) (by rw [known]; rfl) files
  refine ⟨?_, spared⟩
  rw [stages.state, Bench.settle_state stages.opened stages.running stages.settles]
  cases asked : c.session.killRequested with
  | false => rfl
  | true => exact absurd (stages.ended.saw (stages.requested asked)) (spared _ _)

end Stages

end Stages

/-- How the incidents of a run follow from what it has gone through; `further` is what is told
behind a failed launch. -/
structure Explained (setup : RunSetup) (report : RunReport) (m : Bench) (outcome : ScriptOutcome)
    (c final : Bench) (further : List Incident) : Prop where
  /-- A launch that failed is told first. -/
  incidents : report.incidents = c.launchIncidents setup.config.emulator.command ++ further
  /-- A script that did not complete tells why. -/
  stopped : report.status ≠ .completed → ∃ incident, further = [incident] ∧
    outcome.incidents = [incident] ∧
    incident.kind ∈ [.interrupted, .bootTimeout, .promptTimeout, .streamClosed] ∧
    (incident.kind = .interrupted ↔ report.status = .interrupted)
  /-- Otherwise the wait for the exit tells if it was in vain. -/
  completed : report.status = .completed → outcome.incidents = [] ∧
    (further = [] ∨ ∃ incident, further = [incident] ∧
      (incident.kind = .shutdownTimeout ∨ incident.kind = .interrupted))
  /-- There is such a wait if all lines were written before the run was cancelled, if it was. -/
  waited : (m.exitWait report.status setup.config.timeouts.exit true).isSome = true ↔
    writtenIn final.history = setup.config.script.lines.map (· ++ "\n") ∧ ¬ m.Saw .aborted
  quiet : report.incidents = [] ↔
    writtenIn final.history = setup.config.script.lines.map (· ++ "\n") ∧
      m.exitWait report.status setup.config.timeouts.exit true = some .exited ∧
      ∃ exit, (m.awaitExit setup.config.timeouts.exit true).1.session.exit = some exit ∧
        exit.failure = none
  unkilled : report.incidents = [] → report.state = .completed ∧
    ∀ name delivered, ¬ final.Saw (.killed name delivered)
  killed : report.state = .killed → report.incidents ≠ []

section Incidents

variable {setup : RunSetup} {target : Target} {files : Files} {report : RunReport}

/-- Whatever happens in a run that comes to its report, its incidents tell of it: none of them is
missing, and none of them is made up. -/
theorem incidents_explain_run (launched : setup.launched = .ok target)
    (done : (setup.run files).report = .ok report) :
    ∃ b m outcome c settled further, Stages setup target files report b m outcome c settled ∧
      Explained setup report m outcome c (setup.run files).bench further := by
  obtain ⟨b, m, outcome, c, settled, stages⟩ := exists_stages launched done
  refine ⟨b, m, outcome, c, settled, outcome.incidents ++ settled.incidents, stages,
    stages.incidents, ?_, ?_, ?_, ?_, stages.unkilled launched, ?_⟩
  · rw [stages.status]
    intro unfinished
    obtain ⟨silent, incident, told, kind, interrupted⟩ := stages.stopped unfinished
    exact ⟨incident, by rw [told, silent]; rfl, told, kind, interrupted⟩
  · rw [stages.status]
    intro finished
    obtain ⟨silent, told⟩ := stages.completed finished
    refine ⟨silent, ?_⟩
    rw [silent, told, List.nil_append]
    cases (m.awaitExit setup.config.timeouts.exit true).2 with
    | exited => exact .inl rfl
    | timeout => exact .inr ⟨_, rfl, .inl rfl⟩
    | interrupted => exact .inr ⟨_, rfl, .inr rfl⟩
  · rw [stages.status, ← stages.completed_iff]
    exact Bench.exitWait_isSome m outcome.status setup.config.timeouts.exit true
  · rw [stages.status, stages.quiet_iff]
    refine ⟨fun quiet => ⟨?_, quiet⟩, fun quiet => quiet.2⟩
    -- The wait for the exit took place, so the script has come to its end.
    exact (stages.completed_iff.mp (Bench.status_of_exitWait quiet.1)).1
  · intro killed quiet
    rw [(stages.unkilled launched quiet).1] at killed
    contradiction

theorem exists_report (launched : setup.launched = .ok target)
    (filled : setup.config.script.prompt ≠ "") (files : Files) :
    ∃ report, (setup.run files).report = .ok report := by
  obtain ⟨b, run, -, course⟩ := run_keptAt launched filled
  have here : setup.run files = setup.ending files (b, .ok run) :=
    course setup.cwd setup.config.artifactPath files
  rw [here]
  rcases ending_cases setup files b run with ⟨path, kept, -⟩ | ⟨_, lost, -⟩
  · exact ⟨_, kept⟩
  · exact ⟨_, lost⟩

/-- A run that is cancelled before it begins. -/
def cancelled : RunSetup where
  config :=
    { emulator := { command := "emulator", args := [] }
      script :=
        { prompt := "$ ", bootTimeout := 10, promptTimeout := 10, settle := 0, commands := ["ls"],
          shutdownCommand := "poweroff" }
      timeouts := { exit := 10, killGrace := 10, drain := 10 }
      artifactPath := "out.txt"
      mirror := .off
      expectations := [] }
  launched := .ok {}
  cancellation := .given true

/-- A run that is cancelled before it begins has an incident to tell of. -/
theorem incidents_explain_run_cancelled :
    ∃ report, (cancelled.run {}).report = .ok report ∧ report.incidents ≠ [] := by
  obtain ⟨report, done⟩ := exists_report (rfl : cancelled.launched = .ok {}) (by decide) {}
  obtain ⟨b, m, outcome, c, settled, further, stages, explained⟩ :=
    incidents_explain_run (rfl : cancelled.launched = .ok {}) done
  refine ⟨report, done, fun quiet => ?_⟩
  obtain ⟨-, waited, -⟩ := explained.quiet.mp quiet
  have started := stages.started
  obtain rfl : (cancelled.opening {}).start.1 = b := by rw [started]
  have seen : (cancelled.opening {}).start.1.Saw .aborted :=
    ⟨⟨0, .aborted⟩, by decide +kernel, rfl⟩
  exact (explained.waited.mp (by rw [waited]; rfl)).2 (stages.evolves_script.saw seen)

end Incidents

end RunSetup

end ConsoleHarness
