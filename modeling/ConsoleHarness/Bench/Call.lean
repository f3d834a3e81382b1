import ConsoleHarness.Bench.Lifecycle
import ConsoleHarness.Bench.Script

/-! # Calls on a bench

Everything that can be asked of a session and its surroundings, as data, so that sequences of calls
can be run and spoken of.
-/

namespace ConsoleHarness

/-- Something to do with a bench. -/
inductive Call where
  | start
  | takeChunk
  | pushBack (text : String)
  | record (unit : String)
  | markPromptReady
  | transcript
  | sealTranscript
  | pid
  | waitForOutput (limit : Millis)
  | read (marker : String) (limit : Millis)
  | drain (limit : Millis)
  | send (line : String)
  /-- A text for the target, past the session. -/
  | write (text : String)
  | kill (signal : String)
  /-- A signal for the target, past the session. -/
  | signal (name : String)
  | finish
  | awaitExit (limit : Millis)
  | terminate (grace : Millis) (logs : Bool)
  /-- A script; with `alone` set it is given neither signal nor logger. -/
  | script (script : Script) (alone : Bool)
  /-- The end after a script of that status; `alone` as above. -/
  | settle (status : ScriptStatus) (timeouts : Timeouts) (alone : Bool)
  /-- The clock runs on with the program at rest. -/
  | advance (span : Millis)
  /-- Something that happens to the target or to the run, now or later. -/
  | happen (timed : Timed)

/-- What a call gives. -/
inductive Answer where
  | nothing
  | chunk (chunk : Option String)
  | text (text : String)
  | pid (pid : Option Nat)
  | reading (reading : Reading)
  | flag (flag : Bool)
  | wait (result : ExitWait)
  | outcome (outcome : ScriptOutcome)
  | settled (settled : Settled)
  deriving DecidableEq, Repr

namespace Bench

/-- Freezes the transcript and leaves the session as it is. -/
def sealTranscript (b : Bench) : Bench :=
  (b.withSession { b.session with transcript := b.session.transcript.close }).note .sealed

/-- Gives an answer that was not refused. -/
def answering {α : Type} (give : α → Answer) :
    Bench × Except Fault α → Bench × Except SendFailure Answer
  | (b, .ok value) => (b, .ok (give value))
  | (b, .error fault) => (b, .error (.fault fault))

/-- Does a call.  `heeds` says whether calls are given the run's signal. -/
def perform (b : Bench) (heeds : Bool) : Call → Bench × Except SendFailure Answer
  | .start => answering (fun _ => .nothing) b.start
  | .takeChunk =>
    match b.session.takeChunk with
    | some (chunk, session) => (b.withSession session, .ok (.chunk (some chunk)))
    | none => (b, .ok (.chunk none))
  | .pushBack text => (b.withSession (b.session.pushBack text), .ok .nothing)
  | .record unit => answering (fun _ => .nothing) (b.record unit)
  | .markPromptReady => (b.markPromptReady, .ok .nothing)
  | .transcript => (b, .ok (.text b.session.transcript.text))
  | .sealTranscript => (b.sealTranscript, .ok (.text b.session.transcript.text))
  | .pid => (b, .ok (.pid b.target.pid))
  | .waitForOutput limit => (b.waitForOutput limit heeds, .ok .nothing)
  | .read marker limit => answering .reading (b.readUntil marker limit heeds)
  | .drain limit => answering .text (b.drain limit)
  | .send line =>
    match b.sendLine line with
    | (b, .ok ()) => (b, .ok .nothing)
    | (b, .error failure) => (b, .error failure)
  | .write text =>
    match b.write text with
    | (b, .ok ()) => (b, .ok .nothing)
    | (b, .error failure) => (b, .error (.write failure))
  | .kill signal => (b.kill signal).map id (.ok ∘ .flag)
  | .signal name => (b.signal name).map id (.ok ∘ .flag)
  | .finish => (b.finish, .ok (.text b.session.transcript.text))
  | .awaitExit limit => (b.awaitExit limit heeds).map id (.ok ∘ .wait)
  | .terminate grace logs => (b.forceTerminate grace logs).map id (.ok ∘ .flag)
  | .script script alone => answering .outcome (b.runScript script (heeds && !alone) !alone)
  | .settle status timeouts alone =>
    answering .settled (b.settle status timeouts (heeds && !alone) !alone)
  | .advance span => (b.advance span, .ok .nothing)
  | .happen timed => (b.begin [timed], .ok .nothing)

/-- Back from a call, the program is paused until its next one; everything happens that needs no
time. -/
def rest (b : Bench) : Bench := b.notePause.tick.notePause

/-- Does a call, and rests. -/
def call (b : Bench) (heeds : Bool) (call : Call) : Bench × Except SendFailure Answer :=
  (b.perform heeds call).map rest id

/-- Does calls one after the other, each with or without the run's signal. -/
def calls (b : Bench) : List (Bool × Call) → Bench
  | [] => b
  | (heeds, first) :: rest => (b.call heeds first).1.calls rest

/-- The bench at the start of a run: the target's own events are on the agenda.

Whatever a target does by itself follows the start, and takes a turn of its own.  A target that is
gone before the session starts cannot be described, nor one that exits in the same turn in which the
run is cancelled: one of both comes first, and the program goes on in between. -/
def launch (target : Target) : Bench :=
  let b : Bench := { target }
  target.events.foldl (fun b timed =>
    b.schedule (timed.after.getD 0) (.act timed.action)) b

end Bench

end ConsoleHarness
