import ConsoleHarness.Bench.Call
import ConsoleHarness.Config.Basic
import ConsoleHarness.Report.Lines
import ConsoleHarness.Run.Interrupts

/-! # Runs

A run launches the target, goes through the script, brings the session to its end, keeps the
transcript and tells the verdict.  Whatever can be recovered from ends up among the incidents; a
fault ends the run without a verdict, but not without an attempt to kill what was launched.
-/

namespace ConsoleHarness

/-- How a run can be cancelled. -/
inductive Cancellation where
  /-- By a signal that the run is given, which may be aborted already. -/
  | given (aborted : Bool)
  /-- By signals to the run's own process, of which the named one will come. -/
  | processSignals (name : String)
  deriving DecidableEq, Repr

/-- What a run starts from. -/
structure RunSetup where
  config : Config
  /-- The launched target, or the reason why the launch failed. -/
  launched : Except String Target
  cancellation : Cancellation := .given false
  painter : Painter := .plain
  /-- The working directory. -/
  cwd : Path := {}
  /-- Others who listen to the signal that the run is given, by number. -/
  listeners : List Nat := []
  /-- The handlers of signals to the process that others installed. -/
  interrupts : Interrupts := {}

/-- What came of a run. -/
structure RunReport where
  verdict : Verdict
  exitCode : Nat
  state : SessionState
  status : ScriptStatus
  transcript : String
  artifact : Option Path
  incidents : List Incident
  deriving DecidableEq, Repr

namespace Bench

/-! ## Cancellation -/

/-- The run is cancelled before it begins, and then has nothing to listen for. -/
def cancelAtOnce (b : Bench) : Bench :=
  { b with route := .forwarded, aborted := true }.note .aborted

/-- The run starts to listen for its cancellation. -/
def attach (b : Bench) : Cancellation → Bench
  | .given true => b.cancelAtOnce
  | .given false => { b with route := .forwarded, outside := b.outside.listen }
  | .processSignals name =>
    { b with
      route := .processSignal name b.outside.interrupts.installations.length
      outside := b.outside.install }

/-- The run stops listening. -/
def detach (b : Bench) : Bench :=
  { b with
    outside :=
      match b.route with
      | .direct => b.outside
      | .forwarded => b.outside.unlisten
      | .processSignal _ installation => b.outside.dispose installation }

/-! ## The session of a run -/

/-- What came of the session of a run. -/
structure SessionRun where
  settled : Settled
  status : ScriptStatus
  incidents : List Incident
  deriving DecidableEq, Repr

/-- What a session does once its script has returned. -/
def afterScript (config : Config) :
    Bench × Except Fault ScriptOutcome → Bench × Except Fault SessionRun
  | (b, .error fault) => (b, .error fault)
  | (b, .ok outcome) =>
    match b.settle outcome.status config.timeouts true true with
    | (b, .error fault) => (b, .error fault)
    | (b, .ok settled) =>
      let incidents := outcome.incidents ++ settled.incidents
      match b.session.exit.bind (·.failure) with
      | none => (b, .ok { settled, status := outcome.status, incidents })
      | some reason =>
        let incident := Incident.launchFailed config.emulator.command reason
        (b.log true .error incident.message,
          .ok { settled, status := outcome.status, incidents := incident :: incidents })

/-- Script and end of a started session. -/
def runStarted (b : Bench) (config : Config) : Bench × Except Fault SessionRun :=
  afterScript config (b.runScript config.script true true)

/-- The last resort: a target that neither exited nor was killed is killed. -/
def neverLeave (b : Bench) : Bench :=
  if b.session.exit.isNone && !b.session.killRequested then (b.kill "SIGKILL").1 else b

/-- A session from its start on. -/
def runSession (b : Bench) (config : Config) : Bench × Except Fault SessionRun :=
  match b.start with
  | (b, .error fault) => (b, .error fault)
  | (b, .ok ()) => (b.runStarted config).map neverLeave id

/-! ## The end of a run -/

/-- Prints lines, one after the other. -/
def printLines (b : Bench) (lines : List String) : Bench :=
  lines.foldl (fun b line => b.note (.printed line)) b

/-- Keeps the transcript; a failure is logged. -/
def keep (b : Bench) (files : Files) (setup : RunSetup) (transcript : String) :
    Bench × Files × Option Path :=
  let wanted := setup.config.artifactPath
  match Artifact.persist files setup.cwd wanted transcript with
  | (files, .ok path) => (b, files, some path)
  | (files, .error failure) =>
    (b.log true .error s!"Could not save transcript to {wanted}: {failure.message}", files, none)

/-- The lines that end a run. -/
def closingLines (painter : Painter) (verdict : Verdict) (artifact : Option Path) : List String :=
  ["", "=== Test Results ==="] ++ verdict.lines painter ++
    (artifact.map fun path => s!"Full output saved to {path.text}").toList

/-- Keeps the transcript and tells the verdict. -/
def conclude (b : Bench) (files : Files) (setup : RunSetup) (run : SessionRun) :
    Bench × Files × RunReport :=
  let transcript := run.settled.transcript
  let (b, files, artifact) := b.keep files setup transcript
  let verdict := Verdict.ofTranscript transcript setup.config.expectations
  (b.printLines (closingLines setup.painter verdict artifact), files,
    { verdict, exitCode := verdict.exitCode, state := run.settled.state, status := run.status,
      transcript, artifact, incidents := run.incidents })

end Bench

/-! ## The whole run -/

/-- What is left after a run: the bench with its journal, the files, and the report or the fault
that ended it. -/
structure RunResult where
  bench : Bench
  files : Files
  report : Except Fault RunReport

namespace RunSetup

/-- What a run finds outside of it. -/
def outside (setup : RunSetup) : Outside where
  listeners := setup.listeners.map .other
  interrupts := setup.interrupts

/-- The bench of a run before its session starts. -/
def opening (setup : RunSetup) (target : Target) : Bench :=
  ({ Bench.launch target with outside := setup.outside }.attach setup.cancellation).log true .info
    s!"Starting {setup.config.emulator.command}..."

/-- What is left after a session that came to its end, or was stopped by a fault. -/
def ending (setup : RunSetup) (files : Files) : Bench × Except Fault Bench.SessionRun → RunResult
  | (bench, .error fault) => { bench, files, report := .error fault }
  | (bench, .ok run) =>
    let (bench, files, report) := bench.conclude files setup run
    { bench, files, report := .ok report }

/-- A complete run. -/
def run (setup : RunSetup) (files : Files) : RunResult :=
  match setup.launched with
  | .error reason =>
    { bench := (setup.opening {}).detach, files, report := .error (.launch reason) }
  | .ok target =>
    setup.ending files (((setup.opening target).runSession setup.config).map Bench.detach id)

end RunSetup

end ConsoleHarness
