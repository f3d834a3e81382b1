import ConsoleHarness.Proofs.Files
import ConsoleHarness.Proofs.Report.Verdict
import ConsoleHarness.Proofs.Run.Course

/-! # Every run reaches its verdict

A run whose prompt is not empty ends with a report, whatever its target does and whether or not the
transcript can be kept.  Up to the moment at which the transcript is kept, the run does not look at
the files; from there on `RunSetup.ending_cases` tells the two courses it can take.
-/

namespace ConsoleHarness

namespace Bench

/-- The report on a session whose transcript was not kept. -/
def SessionRun.unkept (run : SessionRun) (expectations : List Expectation) : RunReport where
  verdict := .ofTranscript run.settled.transcript expectations
  exitCode := (Verdict.ofTranscript run.settled.transcript expectations).exitCode
  state := run.settled.state
  status := run.status
  transcript := run.settled.transcript
  artifact := none
  incidents := run.incidents

/-- Lines that are printed now, as events. -/
def printing (b : Bench) (lines : List String) : List Entry :=
  lines.map fun line => ⟨b.clock, .printed line⟩

theorem history_printLines (b : Bench) (lines : List String) :
    (b.printLines lines).history = b.history ++ b.printing lines := by
  unfold printLines
  induction lines generalizing b with
  | nil => simp [printing]
  | cons line rest ih =>
    rw [List.foldl_cons, ih, history_note, List.append_assoc]
    rfl

end Bench

namespace RunSetup

/-- The same run, but for where its transcript is kept. -/
def keptAt (setup : RunSetup) (cwd : Path) (artifactPath : String) : RunSetup :=
  { setup with cwd, config := { setup.config with artifactPath } }

/-- The lines that a run prints in any case. -/
def closing (setup : RunSetup) (run : Bench.SessionRun) : List String :=
  Bench.closingLines setup.painter
    (.ofTranscript run.settled.transcript setup.config.expectations) none

/-- The transcript is kept and can be read, or one error is logged and one line less is printed. -/
theorem ending_cases (setup : RunSetup) (files : Files) (b : Bench) (run : Bench.SessionRun) :
    (∃ path,
        (setup.ending files (b, .ok run)).report =
          .ok { run.unkept setup.config.expectations with artifact := some path } ∧
        (setup.ending files (b, .ok run)).files.read path = .ok run.settled.transcript ∧
        (setup.ending files (b, .ok run)).bench.history =
          b.history ++ b.printing (setup.closing run) ++
            b.printing [s!"Full output saved to {path.text}"]) ∨
      ∃ failure : FileError,
        (setup.ending files (b, .ok run)).report = .ok (run.unkept setup.config.expectations) ∧
        (setup.ending files (b, .ok run)).bench.history =
          b.history ++
            ⟨b.clock, .logged .error
              s!"Could not save transcript to {setup.config.artifactPath}: {failure.message}"⟩ ::
            b.printing (setup.closing run) := by
  unfold ending Bench.conclude Bench.keep
  dsimp only
  split
  · rename_i after path kept
    refine .inl ⟨path, rfl, (Artifact.read_persist kept).2, ?_⟩
    dsimp only
    rw [Bench.history_printLines, List.append_assoc]
    simp [closing, Bench.closingLines, Bench.printing]
  · rename_i after failure _
    refine .inr ⟨failure, rfl, ?_⟩
    dsimp only
    rw [Bench.history_printLines]
    simp [closing, Bench.closingLines, Bench.printing, Bench.log, Bench.note, Bench.history]

/-- The artifact in a report is what comes of keeping the transcript. -/
theorem report_ending (setup : RunSetup) (files : Files) (b : Bench) (run : Bench.SessionRun) :
    (setup.ending files (b, .ok run)).report =
      .ok { run.unkept setup.config.expectations with
        artifact := (Artifact.persist files setup.cwd setup.config.artifactPath
          run.settled.transcript).2.toOption } := by
  unfold ending Bench.conclude Bench.keep
  dsimp only
  split <;> rename_i kept <;> rw [kept] <;> rfl

/-- Until its transcript is kept, a run does not look at the files. -/
theorem run_keptAt {setup : RunSetup} {target : Target} (launched : setup.launched = .ok target)
    (filled : setup.config.script.prompt ≠ "") :
    ∃ b run, run.settled.state.isTerminal = true ∧ ∀ cwd artifactPath files,
      (setup.keptAt cwd artifactPath).run files =
        (setup.keptAt cwd artifactPath).ending files (b, .ok run) := by
  obtain ⟨m, started, fresh⟩ := start_opening setup target
  obtain ⟨b, run, done, terminal⟩ := Bench.runStarted_eq_ok fresh filled
  refine ⟨b.neverLeave.detach, run, terminal, fun cwd artifactPath files => ?_⟩
  -- Script and end of the session read other fields of the configuration only.
  have same : m.runStarted (setup.keptAt cwd artifactPath).config = m.runStarted setup.config := rfl
  have launchedToo : (setup.keptAt cwd artifactPath).launched = .ok target := launched
  rw [run_eq launchedToo started, same, done]
  rfl

/-- A report judges its transcript, and nothing else. -/
theorem verdict_eq {setup : RunSetup} {files : Files} {report : RunReport}
    (done : (setup.run files).report = .ok report) :
    report.verdict = .ofTranscript report.transcript setup.config.expectations ∧
      report.exitCode = report.verdict.exitCode := by
  unfold run at done
  split at done
  · contradiction
  · rename_i target _
    cases session : ((setup.opening target).runSession setup.config).map Bench.detach id with
    | mk b result =>
      rw [session] at done
      cases result with
      | error fault => simp [ending] at done
      | ok run =>
        rcases ending_cases setup files b run with ⟨path, kept, _⟩ | ⟨failure, lost, _⟩
        · obtain rfl := Except.ok.inj (done.symm.trans kept)
          exact ⟨rfl, rfl⟩
        · obtain rfl := Except.ok.inj (done.symm.trans lost)
          exact ⟨rfl, rfl⟩

/-- The line of the log that tells why a transcript could not be kept. -/
def lossLine (artifactPath : String) (failure : FileError) : Event :=
  .logged .error s!"Could not save transcript to {artifactPath}: {failure.message}"

/-- A run that could not keep its transcript differs from one that could in one line of the log and
in the line that names the artifact. -/
theorem failed_save {setup : RunSetup} {target : Target} (launched : setup.launched = .ok target)
    (filled : setup.config.script.prompt ≠ "") {files otherFiles : Files} {cwd path : Path}
    {artifactPath : String} {report other : RunReport}
    (done : (setup.run files).report = .ok report)
    (otherDone : ((setup.keptAt cwd artifactPath).run otherFiles).report = .ok other)
    (kept : report.artifact = some path) (lost : other.artifact = none) :
    other = { report with artifact := none } ∧
      ∃ before lines moment failure,
        (setup.run files).bench.history =
          before ++ lines ++ [⟨moment, .printed s!"Full output saved to {path.text}"⟩] ∧
        ((setup.keptAt cwd artifactPath).run otherFiles).bench.history =
          before ++ ⟨moment, lossLine artifactPath failure⟩ :: lines := by
  obtain ⟨b, run, _, course⟩ := run_keptAt launched filled
  have here : setup.run files = setup.ending files (b, .ok run) :=
    course setup.cwd setup.config.artifactPath files
  rw [here] at done ⊢
  rw [course cwd artifactPath otherFiles] at otherDone ⊢
  -- Both runs end from the same bench; `kept` and `lost` tell which course each of them took.
  rcases ending_cases setup files b run with ⟨place, saved, _, printed⟩ | ⟨_, unsaved, _⟩
  · obtain rfl := Except.ok.inj (done.symm.trans saved)
    obtain rfl := Option.some.inj kept
    rcases ending_cases (setup.keptAt cwd artifactPath) otherFiles b run with
      ⟨_, savedToo, _⟩ | ⟨failure, unsaved, logged⟩
    · obtain rfl := Except.ok.inj (otherDone.symm.trans savedToo)
      simp at lost
    · obtain rfl := Except.ok.inj (otherDone.symm.trans unsaved)
      exact ⟨rfl, b.history, b.printing (setup.closing run), b.clock, failure, printed, logged⟩
  · obtain rfl := Except.ok.inj (done.symm.trans unsaved)
    simp [Bench.SessionRun.unkept] at kept

/-- With a prompt to wait for, every run of a launched target returns a report.  Its verdict is that
of its transcript, its exit code tells whether every expected text occurs there, its session has
ended, and its artifact holds the transcript.  Runs with equal transcripts and expectations have
equal verdicts; and if one run could keep its transcript and another could not, they differ in one
line of the log and in the line that names the artifact. -/
theorem run_reaches_verdict {setup : RunSetup} {target : Target}
    (launched : setup.launched = .ok target) (filled : setup.config.script.prompt ≠ "")
    (files : Files) :
    ∃ report, (setup.run files).report = .ok report ∧
      report.verdict = .ofTranscript report.transcript setup.config.expectations ∧
      (report.exitCode = 0 ↔
        ∀ e ∈ setup.config.expectations, e.expected.toList <:+: report.transcript.toList) ∧
      report.state.isTerminal = true ∧
      (∀ path, report.artifact = some path →
        (setup.run files).files.read path = .ok report.transcript) ∧
      (∀ (other : RunSetup) (otherFiles : Files) (otherReport : RunReport),
        (other.run otherFiles).report = .ok otherReport →
        otherReport.transcript = report.transcript →
        other.config.expectations = setup.config.expectations →
          otherReport.verdict = report.verdict ∧ otherReport.exitCode = report.exitCode) ∧
      ∀ (cwd path : Path) (artifactPath : String) (otherFiles : Files) (otherReport : RunReport),
        ((setup.keptAt cwd artifactPath).run otherFiles).report = .ok otherReport →
        report.artifact = some path → otherReport.artifact = none →
          otherReport = { report with artifact := none } ∧
            ∃ before lines moment failure,
              (setup.run files).bench.history =
                before ++ lines ++ [⟨moment, .printed s!"Full output saved to {path.text}"⟩] ∧
              ((setup.keptAt cwd artifactPath).run otherFiles).bench.history =
                before ++ ⟨moment, lossLine artifactPath failure⟩ :: lines := by
  obtain ⟨b, run, terminal, course⟩ := run_keptAt launched filled
  have here : setup.run files = setup.ending files (b, .ok run) :=
    course setup.cwd setup.config.artifactPath files
  obtain ⟨report, done, ended, readable⟩ : ∃ report, (setup.run files).report = .ok report ∧
      report.state.isTerminal = true ∧
      ∀ path, report.artifact = some path →
        (setup.run files).files.read path = .ok report.transcript := by
    rw [here]
    rcases ending_cases setup files b run with ⟨place, saved, read, _⟩ | ⟨_, unsaved, _⟩
    · refine ⟨_, saved, terminal, fun path kept => ?_⟩
      obtain rfl := Option.some.inj kept
      exact read
    · refine ⟨_, unsaved, terminal, fun path kept => ?_⟩
      simp [Bench.SessionRun.unkept] at kept
  obtain ⟨verdict, code⟩ := verdict_eq done
  refine ⟨report, done, verdict, ?_, ended, readable, ?_, ?_⟩
  · rw [code, verdict, Verdict.exitCode_ofTranscript]
  · intro other otherFiles otherReport otherDone sameTranscript sameExpectations
    obtain ⟨otherVerdict, otherCode⟩ := verdict_eq otherDone
    have same : otherReport.verdict = report.verdict := by
      rw [otherVerdict, verdict, sameTranscript, sameExpectations]
    exact ⟨same, by rw [otherCode, code, same]⟩
  · intro cwd path artifactPath otherFiles otherReport otherDone kept lost
    exact failed_save launched filled done otherDone kept lost

/-- The report on a run whose target has said something, but no prompt, and is gone. -/
theorem exists_report_of_hungUp {setup : RunSetup} {target : Target}
    (launched : setup.launched = .ok target) {b gone : Bench}
    (started : (setup.opening target).start = (b, .ok ())) {text : String} {elapsed : Millis}
    (read : (b.log true .info "Waiting for shell...").readUntil setup.config.script.prompt
      setup.config.script.bootTimeout true = (gone, .ok ⟨.closed, text, elapsed⟩))
    (hung : gone.HungUp) {exit : Exit} (exited : gone.session.exit = some exit)
    (clean : exit.failure = none) (files : Files) :
    ∃ report, (setup.run files).report = .ok report ∧
      report.transcript = gone.session.transcript.text ∧
      report.artifact = (Artifact.persist files setup.cwd setup.config.artifactPath
        gone.session.transcript.text).2.toOption := by
  obtain ⟨c, state, done⟩ := Bench.runStarted_of_hungUp read hung exited clean
  rw [run_eq launched started, done]
  exact ⟨_, report_ending setup files _ _, rfl, rfl⟩

/-! ## A run that says everything and no prompt -/

/-- Whatever is expected of a run by default. -/
def greetings : String := "Welcome to BogoShell!\nHello from C World!\nShutting down...\n"

/-- A target that says so and exits. -/
def talker : Target where
  events :=
    [{ after := some 1, action := .emit greetings.toUTF8.toList },
      { after := some 2, action := .exit { code := some 3 } }]

/-- A run with that target, and with defaults for everything but the mirror. -/
def talking : RunSetup where
  config := ({ mirror := some .plain } : Layer).resolve {}
  launched := .ok talker
  cancellation := .processSignals "SIGINT"

namespace Talking

def started : Bench := (talking.opening talker).start.1

def waiting : Bench := started.log true .info "Waiting for shell..."

/-- The bench when the target has spoken, when that was read, and when the target is gone. -/
def spoken : Bench := waiting.waitForOutput 10000 true

def heard : Bench := (spoken.recordChunk greetings { spoken.session with pending := [] }).1

def gone : Bench := heard.waitForOutput (waiting.clock + 10000 - heard.clock) true

theorem readUntil_eq : waiting.readUntil "> " 10000 true =
    (gone, .ok ⟨.closed, "" ++ greetings, gone.clock - waiting.clock⟩) :=
  Bench.readUntil_of_lastWords (by decide) (by decide +kernel) (by decide +kernel)
    (by decide +kernel : spoken.session.takeChunk = _) (by decide +kernel)
    (Prod.ext rfl (by decide +kernel) :
      spoken.recordChunk greetings { spoken.session with pending := [] } = (heard, .ok ()))
    (by decide +kernel) rfl (by decide +kernel)

/-- What comes of the run, wherever its transcript is kept. -/
theorem exists_report (cwd : Path) (artifactPath : String) (files : Files) :
    ∃ report, ((talking.keptAt cwd artifactPath).run files).report = .ok report ∧
      report.transcript = greetings ∧
      report.artifact = (Artifact.persist files cwd artifactPath greetings).2.toOption := by
  have said : gone.session.transcript.text = greetings := by decide +kernel
  have begun : ((talking.keptAt cwd artifactPath).opening talker).start = (started, .ok ()) :=
    Prod.ext rfl (by decide +kernel : (talking.opening talker).start.2 = .ok ())
  have report := exists_report_of_hungUp (rfl : (talking.keptAt cwd artifactPath).launched = _)
    begun readUntil_eq (by decide +kernel)
    (by decide +kernel : gone.session.exit = some { code := some 3 }) rfl files
  rwa [said] at report

end Talking

/-- Everything was said, and the verdict is good.  So it is if the transcript is to be kept in the
place of a folder, which cannot be done. -/
theorem run_reaches_verdict_talking :
    ∃ report other, (talking.run {}).report = .ok report ∧ report.exitCode = 0 ∧
      report.artifact = some ⟨["test_output.txt"]⟩ ∧
      ((talking.keptAt {} "/").run {}).report = .ok other ∧
      other = { report with artifact := none } := by
  have filled : talking.config.script.prompt ≠ "" := by decide
  obtain ⟨report, done, _, code, _, _, _, lost⟩ :=
    run_reaches_verdict (rfl : talking.launched = .ok talker) filled {}
  obtain ⟨same, here, said, kept⟩ := Talking.exists_report {} talking.config.artifactPath {}
  obtain rfl := Except.ok.inj (done.symm.trans here)
  obtain ⟨other, otherDone, _, unkept⟩ := Talking.exists_report {} "/" {}
  have place : report.artifact = some ⟨["test_output.txt"]⟩ := kept.trans (by decide +kernel)
  have nowhere : other.artifact = none := unkept.trans (by decide +kernel)
  refine ⟨report, other, done, code.mpr ?_, place, otherDone,
    (lost {} _ "/" {} other otherDone place nowhere).1⟩
  rw [said]
  decide +kernel

end RunSetup

end ConsoleHarness
