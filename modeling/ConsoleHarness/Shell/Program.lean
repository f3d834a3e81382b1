import ConsoleHarness.Session.Target
import ConsoleHarness.Shell.Interpreter

/-! # Programs as targets

A command line names a program.  What the program does depends only on what it was given to read,
so it is a target: its answer to a line is what it does with that line and did not do without it.
-/

namespace ConsoleHarness.Shell

/-- A command line in its surroundings. -/
structure Program where
  command : String
  args : List String
  cwd : Path := {}
  env : List (String × String) := []
  files : Files := {}
  pid : Nat := 4242
  deriving Inhabited

/-- Something that a program did, up to its end. -/
inductive Mark where
  | step (step : Step)
  | exit (exit : Exit)
  deriving DecidableEq, Repr

/-- A run of a program: why it stopped, and the machine that it left. -/
structure Outcome where
  stop : Stop
  machine : Machine

namespace Outcome

/-- What a program did, oldest first. -/
def marks (o : Outcome) : List Mark :=
  o.machine.steps.reverse.map .step ++
    match o.stop with
    | .ended exit => [.exit exit]
    | _ => []

/-- Whether the program ended by itself. -/
def ends (o : Outcome) : Bool :=
  match o.stop with
  | .ended _ => true
  | _ => false

/-- Whether the program takes no more input, though it has not ended. -/
def closedInput (o : Outcome) : Bool := o.machine.streams.source = .closed

end Outcome

/-- An action at some moment. -/
def timedAt (moment : Millis) (action : Action) : Timed :=
  ⟨if moment = 0 then none else some moment, action⟩

/-- Marks as the actions of a target, counted from some moment.  The output stays open as long as
something goes on beside the program. -/
def timed (elapsed ends : Millis) : List Mark → List Timed
  | [] => []
  | .step (.write bytes) :: rest => timedAt elapsed (.emit bytes) :: timed elapsed ends rest
  | .step (.wait span) :: rest => timed (elapsed + span) ends rest
  | .step (.beside writes span) :: rest =>
    writes.map (fun (moment, bytes) => timedAt (elapsed + moment) (.emit bytes)) ++
      timed elapsed (max ends (elapsed + span)) rest
  | .exit exit :: rest =>
    (if elapsed < ends then [timedAt elapsed (.exitOnly exit), timedAt ends .finishOutput]
      else [timedAt elapsed (.exit exit)]) ++ timed elapsed ends rest

/-- What of some marks comes after others with which they begin.  A write may have grown. -/
def beyond : List Mark → List Mark → List Mark
  | [], all => all
  | _ :: _, [] => []
  | .step (.write done) :: before, .step (.write bytes) :: rest =>
    if done.length < bytes.length then
      beyond before (.step (.write (bytes.drop done.length)) :: rest)
    else beyond before rest
  | _ :: before, _ :: rest => beyond before rest

namespace Program

/-- How far a program is followed. -/
def fuel : Nat := 10000

/-- The machine at the start of a program that has been given some input. -/
def machine (p : Program) (input : List UInt8) : Machine :=
  { pid := p.pid, files := p.files, cwd := p.cwd, vars := p.env, input }

/-- What a program does. -/
def body (p : Program) : Run Unit := do
  let name := programName p.command
  if shellNames.contains name then shell fuel p.command p.args
  else
    match programs.lookup name with
    | some program => do setStatus (← program p.args)
    | none => setStatus 127

/-- A run of a program with some input. -/
def run (p : Program) (input : List UInt8) : Outcome :=
  match StateT.run (ExceptT.run p.body) (p.machine input) with
  | (.ok (), m) => ⟨.ended { code := some (m.status : Int) }, m⟩
  | (.error stop, m) => ⟨stop, m⟩

/-- A run of a program that has accepted some lines. -/
def runOn (p : Program) (accepted : List String) : Outcome :=
  p.run (Text.encode (String.join accepted))

/-! ## Starting -/

/-- The code for a problem with a path. -/
def pathCode : FileProblem → String
  | .missing => "ENOENT"
  | .notFolder => "ENOTDIR"
  | .isFolder | .present => "EACCES"

/-- Why a program cannot be started, if it cannot. -/
def refusal? (p : Program) : Option String :=
  match p.files.tree.find p.cwd.segments with
  | .error problem => some (pathCode problem)
  | .ok (.file _) => some "ENOTDIR"
  | .ok (.folder _) =>
    let name := programName p.command
    if shellNames.contains name || (programs.lookup name).isSome then none
    else if p.command.toList.contains '/' then
      match p.files.tree.find (p.cwd.resolve p.command).segments with
      | .error problem => some (pathCode problem)
      | .ok _ => some "EACCES"
    else some "ENOENT"

/-! ## Targets -/

/-- A write to a target that takes no more input. -/
def inputClosed : WriteFailure := { reason := "Console input is closed." }

/-- A write to a target that has closed its end. -/
def brokenPipe : WriteFailure := { reason := "write EPIPE", code := some "EPIPE" }

/-- The target of a program that could not be started. -/
def failed (p : Program) (code : String) : Target where
  pid := none
  events := [{ action := .exit { failure := some s!"spawn {p.command} {code}" } }]
  refuses _ _ _ := some inputClosed
  onKill _ _ := .refused

/-- What a program does on a line, the newest of those that it has accepted. -/
def answer (p : Program) (accepted : List String) : List Timed :=
  timed 0 0 (beyond (p.runOn accepted.dropLast).marks (p.runOn accepted).marks)

/-- Why a program refuses a write. -/
def refuses (p : Program) (accepted : List String) (attempts : Nat) (exited : Bool) :
    Option WriteFailure :=
  let broken := (p.runOn accepted).closedInput
  if exited then some (if broken && accepted.length < attempts then brokenPipe else inputClosed)
  else if broken then some brokenPipe
  else none

/-- How a program takes a signal. -/
def onKill (p : Program) (accepted : List String) (signal : String) : KillReaction :=
  match signalName? signal with
  | none => .refused
  | some name =>
    let outcome := p.runOn accepted
    let m := outcome.machine
    let before := m.steps.length
    if outcome.ends && !m.handlers.isEmpty then .exits signal none
    else
      match StateT.run (ExceptT.run (take fuel name)) m with
      | (.ok (), m) => .acts (timed 0 0 ((Outcome.mk .blocked m).marks.drop before))
      | (.error stop, m) => .acts (timed 0 0 ((Outcome.mk stop m).marks.drop before))

/-- A program that could be started, as a target. -/
def started (p : Program) : Target where
  pid := some p.pid
  events := timed 0 0 (p.runOn []).marks
  answer := p.answer
  refuses := p.refuses
  onKill := p.onKill

/-- A program as a target. -/
def target (p : Program) : Target :=
  match p.refusal? with
  | some code => p.failed code
  | none => p.started

end Program

end ConsoleHarness.Shell
