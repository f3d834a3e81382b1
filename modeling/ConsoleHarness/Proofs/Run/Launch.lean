import ConsoleHarness.Proofs.Bench.Punctual
import ConsoleHarness.Proofs.Run.State

/-! # Launches that fail

A target that cannot be started tells so by an exit with a failure, at any time.  If the session
learns of it before its transcript is sealed, the run reports a failed launch as its first incident,
and goes on to its verdict as ever (`RunSetup.LaunchTold`).  A launch that fails at once takes
another course: it ends the run with a fault, and there is no report.
-/

namespace ConsoleHarness

/-- What happened until the transcript was sealed. -/
def untilSealed (history : List Entry) : List Entry := history.takeWhile (·.event ≠ .sealed)

theorem untilSealed_append {before : List Entry} (opened : ∀ entry ∈ before, entry.event ≠ .sealed)
    (later : List Entry) : untilSealed (before ++ later) = before ++ untilSealed later :=
  List.takeWhile_append_of_pos (by simpa using opened)

namespace Bench

/-- The session knows of the exit that has happened, and of no other one. -/
def Told (b : Bench) : Prop := ∀ exit, b.Saw (.exited exit) ↔ b.session.exit = some exit

theorem Step.told {deed : Deed} {b c : Bench} (step : Step deed b c) (told : b.Told) : c.Told := by
  intro exit
  by_cases outside : deed = .world
  · subst outside
    have known := told exit
    unfold Saw at *
    cases step with
    | alike same =>
      rw [same.session, history, same.journal]
      exact known
    | exit onWire unknown =>
      -- No exit has been seen before this one.
      rw [unknown] at known
      have unseen : ∀ entry ∈ b.history, entry.event ≠ .exited exit := by simpa using known
      simpa [or_and_right, exists_or] using
        fun entry member same => absurd same (unseen entry member)
    | arrive | close | abort | pause =>
      simpa [history, note, notePause, withSession] using known
  · rw [step.exit_eq outside, step.saw_iff (Ne.symm outside : (Event.exited exit).deed ≠ deed)]
    exact told exit

theorem Evolves.told {deeds : List Deed} {b c : Bench} (evolves : Evolves deeds b c)
    (told : b.Told) : c.Told :=
  evolves.invariant Told (fun _ _ _ _ step => step.told) told

end Bench

namespace RunSetup

section Launch

variable {setup : RunSetup} {target : Target} {files : Files} {report : RunReport}
  {b m c : Bench} {outcome : ScriptOutcome} {settled : Settled}

namespace Stages

variable (stages : Stages setup target files report b m outcome c settled)
include stages

theorem told : c.Told := by
  have launched : Bench.Told { target } := fun exit => by simp [Bench.Saw, Bench.history]
  have script := (evolves_started stages.started).told launched
  exact stages.evolves_settle.told (stages.evolves_script.told script)

/-- Up to the sealing of its transcript a run has seen what its settlement has seen. -/
theorem saw_iff {event : Event} (other : event ≠ .sealed) :
    (∃ entry ∈ untilSealed (setup.run files).bench.history, entry.event = event) ↔
      c.Saw event := by
  obtain ⟨before, moment, sealing, fresh⟩ := stages.sealing
  obtain ⟨after, grown, -⟩ := stages.ended.news
  have early : untilSealed (setup.run files).bench.history = before := by
    rw [grown, sealing, List.append_assoc, untilSealed_append fresh]
    simp [untilSealed]
  rw [early, Bench.Saw, sealing]
  simp [Ne.symm other]

/-- Neither script nor settlement tells of a launch. -/
theorem other_incidents :
    ∀ incident ∈ outcome.incidents ++ settled.incidents, incident.kind ≠ .launchFailed := by
  intro incident member
  -- Only one of the two has something to tell, depending on whether the script was completed.
  by_cases finished : outcome.status = .completed
  · obtain ⟨silent, told⟩ := stages.completed finished
    rw [silent, told] at member
    cases waited : (m.awaitExit setup.config.timeouts.exit true).2 <;>
      rw [waited] at member <;> simp_all [ExitWait.incidents, Incident.kind]
  · obtain ⟨silent, other, told, kind, -⟩ := stages.stopped finished
    rw [told, silent, List.append_nil, List.mem_singleton] at member
    subst member
    rintro launch
    rw [launch] at kind
    simp at kind

theorem launch_first_iff (reason : String) :
    report.incidents.head? = some (.launchFailed setup.config.emulator.command reason) ↔
      ∃ exit, c.session.exit = some exit ∧ exit.failure = some reason := by
  rw [stages.incidents, Bench.launchIncidents]
  cases failed : c.session.exit.bind (·.failure) with
  | some other =>
    obtain ⟨exit, known, failure⟩ := Option.bind_eq_some_iff.mp failed
    simp [known, failure]
  | none =>
    -- Whatever comes first then is of another kind.
    refine iff_of_false (fun first => ?_) ?_
    · exact stages.other_incidents _ (List.mem_of_mem_head? first) rfl
    · rintro ⟨exit, known, failure⟩
      rw [known] at failed
      exact absurd (failed.symm.trans failure) (by simp)

/-- The transcript at the end of the settlement is all that the run consumes. -/
theorem transcript_eq : settled.transcript = consumedIn (setup.run files).bench.history := by
  obtain ⟨n, more, -, -, -, -, done⟩ :=
    Bench.settle_spec stages.opened outcome.status setup.config.timeouts true true
  obtain ⟨rfl, same⟩ := Prod.mk.inj (done.symm.trans stages.settles)
  obtain rfl := Except.ok.inj same
  have launched : Bench.Recorded (Bench.history { target }) (Bench.session { target }) :=
    ⟨rfl, by simp, by simp [Bench.history]⟩
  -- What is consumed is recorded from the launch on, and nothing is consumed behind the settlement.
  have script := (evolves_started stages.started).recorded launched
  have recorded := stages.evolves_settle.recorded (stages.evolves_script.recorded script)
  rw [stages.ended.consumedIn_eq (by simp)]
  exact recorded.mirrored

end Stages

/-- What a run that comes to its report tells of its launch. -/
structure LaunchTold (setup : RunSetup) (result : RunResult) (report : RunReport) : Prop where
  /-- A failure is told first if it is known when the transcript is sealed. -/
  first : ∀ reason,
    report.incidents.head? = some (.launchFailed setup.config.emulator.command reason) ↔
      ∃ exit, exit.failure = some reason ∧
        ∃ entry ∈ untilSealed result.bench.history, entry.event = .exited exit
  once : ∀ incident ∈ report.incidents.tail, incident.kind ≠ .launchFailed
  /-- By then an exit is known, unless the target had to be killed. -/
  waited : (∃ entry ∈ untilSealed result.bench.history, ∃ exit, entry.event = .exited exit) ∨
    ∃ entry ∈ untilSealed result.bench.history, ∃ delivered,
      entry.event = .killed "SIGKILL" delivered
  transcript : report.transcript = consumedIn result.bench.history
  verdict : report.verdict = .ofTranscript report.transcript setup.config.expectations
  kept : (∃ path, report.artifact = some path ∧ result.files.read path = .ok report.transcript) ∨
    report.artifact = none ∧
      ∃ failure, result.bench.Saw (lossLine setup.config.artifactPath failure)

/-- The transcript is kept, or the log tells why it is not. -/
theorem kept_or_lost (launched : setup.launched = .ok target)
    (filled : setup.config.script.prompt ≠ "") (done : (setup.run files).report = .ok report) :
    (∃ path, report.artifact = some path ∧
        (setup.run files).files.read path = .ok report.transcript) ∨
      report.artifact = none ∧
        ∃ failure, (setup.run files).bench.Saw (lossLine setup.config.artifactPath failure) := by
  obtain ⟨b, run, -, course⟩ := run_keptAt launched filled
  have here : setup.run files = setup.ending files (b, .ok run) :=
    course setup.cwd setup.config.artifactPath files
  rw [here] at done ⊢
  rcases ending_cases setup files b run with ⟨path, saved, readable, -⟩ | ⟨failure, lost, logged⟩
  · obtain rfl := Except.ok.inj (done.symm.trans saved)
    exact .inl ⟨path, rfl, readable⟩
  · obtain rfl := Except.ok.inj (done.symm.trans lost)
    refine .inr ⟨rfl, failure, ⟨b.clock, lossLine setup.config.artifactPath failure⟩, ?_, rfl⟩
    rw [logged]
    exact List.mem_append_right _ List.mem_cons_self

theorem launch_told (launched : setup.launched = .ok target)
    (filled : setup.config.script.prompt ≠ "") (done : (setup.run files).report = .ok report) :
    LaunchTold setup (setup.run files) report := by
  obtain ⟨b, m, outcome, c, settled, stages, same⟩ := exists_reported launched done
  refine ⟨fun reason => ?_, ?_, ?_, ?_, (verdict_eq done).1, kept_or_lost launched filled done⟩
  · rw [stages.launch_first_iff reason]
    constructor
    · rintro ⟨exit, known, failure⟩
      exact ⟨exit, failure, (stages.saw_iff (by simp)).mpr ((stages.told exit).mpr known)⟩
    · rintro ⟨exit, failure, seen⟩
      exact ⟨exit, (stages.told exit).mp ((stages.saw_iff (by simp)).mp seen), failure⟩
  · intro incident member
    apply stages.other_incidents
    rw [stages.incidents, Bench.launchIncidents] at member
    cases failed : c.session.exit.bind (·.failure) with
    | none =>
      rw [failed] at member
      exact List.mem_of_mem_tail member
    | some reason =>
      rw [failed] at member
      exact member
  · rcases stages.gone_or_signalled with ⟨exit, seen⟩ | ⟨delivered, seen⟩
    · obtain ⟨entry, member, event⟩ := (stages.saw_iff (by simp)).mpr seen
      exact .inl ⟨entry, member, exit, event⟩
    · obtain ⟨entry, member, event⟩ := (stages.saw_iff (by simp)).mpr seen
      exact .inr ⟨entry, member, delivered, event⟩
  · rw [same, stages.transcript_eq]

/-- With a prompt to wait for: a launch that fails at once ends the run without a report, and a
target that was launched is always reported on.  The first incident then is the failure with which
the target exited, if it is known when the transcript is sealed. -/
theorem failed_start_comes_first (filled : setup.config.script.prompt ≠ "") (files : Files) :
    (∀ reason, setup.launched = .error reason →
        (setup.run files).report = .error (.launch reason) ∧ (setup.run files).files = files ∧
          (setup.run files).bench.printed = []) ∧
      ∀ target, setup.launched = .ok target →
        ∃ report, (setup.run files).report = .ok report ∧
          LaunchTold setup (setup.run files) report := by
  constructor
  · intro reason refused
    rw [run, refused]
    refine ⟨rfl, rfl, ?_⟩
    show (setup.opening {}).printed = []
    rw [opening]
    cases setup.cancellation with
    | given aborted => cases aborted <;> rfl
    | processSignals name => rfl
  · intro target launched
    obtain ⟨report, done⟩ := exists_report launched filled files
    exact ⟨report, done, launch_told launched filled done⟩

end Launch

/-- A target that could not be started. -/
def absent : Target where
  events := [⟨none, .exit { failure := some "spawn emulator ENOENT" }⟩]

/-- A run whose target says nothing, with nothing expected of it. -/
def silent : RunSetup where
  config :=
    { emulator := { command := "emulator", args := [] }
      script :=
        { prompt := "$ ", bootTimeout := 10, promptTimeout := 10, settle := 0, commands := [],
          shutdownCommand := "poweroff" }
      timeouts := { exit := 10, killGrace := 10, drain := 10 }
      artifactPath := "out.txt"
      mirror := .off
      expectations := [] }
  launched := .ok {}

/-- This run with that target. -/
def missing : RunSetup := { silent with launched := .ok absent }

/-- The bench of this run when its script has waited for the first time. -/
def hungUp : Bench :=
  ((missing.opening absent).start.1.log true .info "Waiting for shell...").waitForOutput 10 true

theorem saw_missing {b m c : Bench} {outcome : ScriptOutcome} {settled : Settled}
    {report : RunReport} (stages : Stages missing absent {} report b m outcome c settled) :
    m.Saw (.exited { failure := some "spawn emulator ENOENT" }) := by
  obtain rfl : (missing.opening absent).start.1 = b := by rw [stages.started]
  have read : ((missing.opening absent).start.1.log true .info "Waiting for shell...").readUntil
      missing.config.script.prompt missing.config.script.bootTimeout true =
        (hungUp, .ok ⟨.closed, "", _⟩) :=
    Bench.readUntil_of_hungUp (by decide) (by decide +kernel) (by decide +kernel)
  have scripted := stages.scripted
  rw [Bench.runScript, read] at scripted
  obtain ⟨rfl, -⟩ := Prod.mk.inj scripted
  exact ⟨⟨0, _⟩, by decide +kernel, rfl⟩

theorem failed_start_comes_first_missing :
    ∃ report, (missing.run {}).report = .ok report ∧
      report.incidents.head? = some (.launchFailed "emulator" "spawn emulator ENOENT") := by
  obtain ⟨-, told⟩ := failed_start_comes_first (by decide : missing.config.script.prompt ≠ "") {}
  obtain ⟨report, done, told⟩ := told absent rfl
  obtain ⟨b, m, outcome, c, settled, stages⟩ := exists_stages (rfl : missing.launched = _) done
  have seen := stages.evolves_settle.saw (saw_missing stages)
  exact ⟨report, done, (told.first _).mpr ⟨_, rfl, (stages.saw_iff (by simp)).mpr seen⟩⟩

/-- The same run with a launch that fails at once. -/
def refused : RunSetup := { silent with launched := .error "spawn EINVAL" }

/-- Such a run has no report, although its prompt is not empty. -/
theorem refused_launch_unreported :
    refused.config.script.prompt ≠ "" ∧ refused.launched = .error "spawn EINVAL" ∧
      (refused.run {}).report = .error (.launch "spawn EINVAL") ∧
      ¬ ∃ report, (refused.run {}).report = .ok report := by
  refine ⟨by decide, rfl, rfl, ?_⟩
  rintro ⟨report, done⟩
  contradiction

end RunSetup

end ConsoleHarness
