import ConsoleHarness.Bench.Reader
import ConsoleHarness.Session.Script

/-! # The end of a session

A script that completed leaves its target a bounded time to exit; any other target is killed at
once.  What output is left is then drained, and the transcript sealed.
-/

namespace ConsoleHarness

/-- What ended a wait for the exit. -/
inductive ExitWait where
  | exited
  | timeout
  | interrupted
  deriving DecidableEq, Repr

/-- The name of an end of a wait. -/
def ExitWait.text : ExitWait → String
  | .exited => "exited"
  | .timeout => "timeout"
  | .interrupted => "interrupted"

namespace Bench

/-- Waits until the exit of the target is known, the time is up or, if the call heeds it, the run
is cancelled. -/
def awaitExit (b : Bench) (limit : Millis) (heeds : Bool) : Bench × ExitWait :=
  if b.session.exit.isSome then (b, .exited)
  else if heeds && b.aborted then (b, .interrupted)
  else
    let delay := Timer.delay (if limit ≤ 0 then 0 else limit)
    match b.pause { timer := some delay, exit := true, abort := heeds } with
    | (b, .exit) => (b, .exited)
    | (b, .abort) => (b, .interrupted)
    | (b, .timer) | (b, .output) | (b, .never) => (b, .timeout)

/-- The name of the target in messages. -/
def pidText (b : Bench) : String :=
  match b.target.pid with
  | some pid => toString pid
  | none => "unknown"

/-- Kills the target and waits for its exit; `true` if the target is known to be gone. -/
def forceTerminate (b : Bench) (grace : Millis) (logs : Bool) : Bench × Bool :=
  if b.session.exit.isSome then (b, true)
  else
    let (b, _) := b.kill "SIGKILL"
    match b.awaitExit grace false with
    | (b, .exited) => (b, true)
    | (b, .timeout) | (b, .interrupted) =>
      (b.log logs .error
        s!"Emulator (pid {b.pidText}) did not exit {grace.text}ms after SIGKILL.", false)

/-- Notes an incident of the end and kills the target. -/
def endForcibly (b : Bench) (incident : Incident) (grace : Millis) (logs : Bool) :
    Bench × List Incident :=
  (((b.log logs .warn incident.message).forceTerminate grace logs).1, [incident])

/-- Gets rid of the target, and tells what went wrong. -/
def dismiss (b : Bench) (status : ScriptStatus) (timeouts : Timeouts) (heeds logs : Bool) :
    Bench × List Incident :=
  match status with
  | .completed =>
    match b.awaitExit timeouts.exit heeds with
    | (b, .exited) => (b, [])
    | (b, .timeout) =>
      b.endForcibly (.shutdownMissing timeouts.exit) timeouts.killGrace logs
    | (b, .interrupted) => b.endForcibly .interruptedExit timeouts.killGrace logs
  | .aborted | .interrupted =>
    (((b.log logs .warn "Script did not complete, killing emulator...").forceTerminate
      timeouts.killGrace logs).1, [])

/-- Brings the session to its end after a script. -/
def settle (b : Bench) (status : ScriptStatus) (timeouts : Timeouts) (heeds logs : Bool) :
    Bench × Except Fault Settled :=
  let (b, incidents) := b.dismiss status timeouts heeds logs
  match b.drain timeouts.drain with
  | (b, .error fault) => (b, .error fault)
  | (b, .ok _) =>
    let b := b.finish
    (b, .ok { state := b.session.state, transcript := b.session.transcript.text, incidents })

end Bench

end ConsoleHarness
