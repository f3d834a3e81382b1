import ConsoleHarness.Cli.Effect
import ConsoleHarness.Cli.Request
import ConsoleHarness.Run.Basic
import ConsoleHarness.Run.Console
import ConsoleHarness.Shell.Program

/-! # The command line

From the arguments to an exit code: what is shown on the two streams, and what is left in the files.
Anything short of a verdict is a failed run.

The libraries that an invocation is built on belong to its surroundings (`World`): how a command
line is read, how a document is read, what a file of variables adds to the environment, how control
sequences are removed, and how lines are painted.  Each has a stand-in here, which nothing that is
proved of every invocation relies on.
-/

namespace ConsoleHarness

/-- The parts of a run, as an interruption of its process sees them. -/
inductive Stage where
  | loading
  | running
  deriving DecidableEq, Repr

/-- The program that a configuration names. -/
def Emulator.program (files : Files) (cwd : Path) (env : Environment) (emulator : Emulator) :
    Shell.Program where
  command := emulator.command
  args := emulator.args
  cwd := (emulator.cwd.map Path.ofText).getD cwd
  env := emulator.env.getD [] ++ env
  files := files

/-- What a command line orders. -/
inductive Order where
  /-- A run of the harness. -/
  | run (overrides : Overrides)
  /-- Something that the reader of the command line does on its own. -/
  | other (effect : Effect Unit)

namespace Order

/-- The text that explains the command line. -/
def helpText : String :=
  "Console harness\n\n" ++
    "run [--config text] [--artifact text] [--kernel text] [--mirror raw | plain | off]\n"

/-- The version of the program. -/
def versionText : String := "0.1.0\n"

/-- The order of a command line. -/
def ofArgs (args : List String) : Order :=
  match Request.ofArgs args with
  | .error e => .other do
    Effect.putError (e.message ++ "\n")
    throw (.failed e.message)
  | .ok .help => .other (Effect.putOut helpText)
  | .ok .version => .other (Effect.putOut versionText)
  | .ok (.run overrides) => .run overrides

end Order

/-- The surroundings of an invocation. -/
structure World where
  files : Files := {}
  cwd : Path := {}
  env : Environment := []
  /-- The variables that are added to the environment before anything else, unless they are set. -/
  added : Environment := []
  /-- How a command line is read. -/
  read : List String → Order := Order.ofArgs
  /-- How the text of a document is read. -/
  parse : String → Except Yaml.Fault Value := Yaml.parse
  /-- How the control sequences of a text are removed. -/
  strip : String → String := Text.Ansi.strip
  painter : Painter := .plain
  /-- How an emulator is started, if it can be. -/
  launch : Emulator → Except String Target := fun emulator =>
    .ok (emulator.program files cwd (env ++ added)).target
  /-- The part of a run during which its process is interrupted. -/
  struck : Option Stage := none

/-- What an invocation comes to. -/
structure Invocation where
  exitCode : Nat
  stdout : String := ""
  stderr : String := ""
  files : Files := {}
  deriving Inhabited

namespace World

/-- Where the configuration of a run comes from. -/
def sources (w : World) (overrides : Overrides) : Sources where
  files := w.files
  cwd := w.cwd
  env := w.env ++ w.added
  overrides := overrides
  parse := w.parse

/-- A run with a configuration. -/
def setup (w : World) (config : Config) : RunSetup where
  config := config
  launched := w.launch config.emulator
  cancellation := .processSignals "SIGINT"
  painter := w.painter
  cwd := w.cwd

/-! ## Running -/

/-- Loads the configuration of a run, and shows the warnings about it. -/
def loadConfig (w : World) (overrides : Overrides) : Effect Loaded := do
  if w.struck = some .loading then throw .interrupted
  match (w.sources overrides).load with
  | .error refusal => throw (.failed refusal.message)
  | .ok loaded =>
    Effect.putError (String.join (loaded.warningLines.map logLine))
    return loaded

/-- Runs the harness, and shows what it has to show.  A run without a report is a defect. -/
def runHarness (w : World) (loaded : Loaded) : Effect RunReport := do
  let result := (w.setup loaded.config).run w.files
  let shown : Show := { mirror := loaded.config.mirror, console := true, strip := w.strip }
  Effect.putOut (shown.stdout result.bench.history)
  Effect.putError (shown.stderr result.bench.history)
  Effect.leave result.files
  match result.report with
  | .ok report => return report
  | .error fault => throw (.died fault)

/-- A run up to its verdict.  It counts as failed until there is one. -/
def runToVerdict (w : World) (overrides : Overrides) : Effect Unit := do
  Effect.setStatus 1
  let loaded ← w.loadConfig overrides
  -- The harness handles the interruption itself, and must still keep and judge the transcript.
  Effect.uninterruptible (w.struck = some .running) do
    let report ← w.runHarness loaded
    Effect.setStatus report.exitCode

/-- The command that runs the harness. -/
def runCommand (w : World) (overrides : Overrides) : Effect Unit :=
  (w.runToVerdict overrides).catchAll fun message => do
    Effect.putError (message ++ "\n")
    Effect.setStatus 1

/-! ## Invoking -/

/-- What a command line makes the process do.  Without arguments it is a run. -/
def program (w : World) (args : List String) : Effect Unit :=
  match w.read (if args.isEmpty then ["run"] else args) with
  | .run overrides => w.runCommand overrides
  | .other effect => effect

/-- An invocation with some arguments. -/
def invoke (w : World) (args : List String) : Invocation :=
  let (exit, process) := w.program args { files := w.files }
  { exitCode := teardown exit process.status
    stdout := process.stdout
    stderr := process.stderr
    files := process.files }

end World

end ConsoleHarness
