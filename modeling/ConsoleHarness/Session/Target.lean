import ConsoleHarness.Session.State
import ConsoleHarness.Text.Utf8

/-! # Targets

A target is the process on the other side of the console.  It is described by what can be seen of
it: what it does by itself and when, how it answers the lines written to it, which writes it
refuses, how long a write takes and whether it fails in the end, and how it reacts to a signal.  The
answer to a line depends on all lines accepted so far, and so does the course of its write; the
reaction to a signal depends on the signals before it as well.  So any deterministic program can be
described.
-/

namespace ConsoleHarness

/-- Something that happens to a target or to the run. -/
inductive Action where
  /-- The target writes some bytes, as one chunk. -/
  | emit (bytes : List UInt8)
  /-- The output ends. -/
  | finishOutput
  /-- The output reports a read error and lives on. -/
  | failOutput
  /-- The output is closed without an end. -/
  | destroyOutput
  /-- The target exits, and its output ends with it. -/
  | exit (exit : Exit)
  /-- The target exits while something keeps its output open. -/
  | exitOnly (exit : Exit)
  /-- The run is cancelled from outside. -/
  | interrupt
  deriving DecidableEq, Repr

/-- An action, at once or some time after the moment it is counted from. -/
structure Timed where
  after : Option Millis := none
  action : Action
  deriving DecidableEq, Repr

/-- Why a write was refused: the text of the error, and the code the system gave it, if any. -/
structure WriteFailure where
  reason : String
  code : Option String := none
  deriving DecidableEq, Repr

/-- How a write goes on that the target took: the time it takes, and why it fails at the end of that
time, if it does. -/
structure WriteCourse where
  after : Option Millis := none
  failure : Option WriteFailure := none
  deriving DecidableEq, Repr

/-- How a target takes a signal. -/
inductive KillReaction where
  /-- The signal cannot be delivered. -/
  | refused
  /-- The signal is delivered, and something happens. -/
  | acts (actions : List Timed)
  deriving DecidableEq, Repr

/-- The signal is delivered and nothing happens. -/
def KillReaction.ignored : KillReaction := .acts []

/-- The signal ends the target, at once or after a while. -/
def KillReaction.exits (signal : String) (after : Option Millis) : KillReaction :=
  .acts [{ after, action := .exit { signal := some signal } }]

/-- The behaviour of a target. -/
structure Target where
  pid : Option Nat := some 4242
  /-- What it does by itself, counted from the launch. -/
  events : List Timed := []
  /-- What it does on a line, given all lines accepted so far, the newest last. -/
  answer : List String → List Timed := fun _ => []
  /-- Why it refuses a write, given the lines accepted so far, the number of writes tried so far,
  and whether it has exited. -/
  refuses : List String → Nat → Bool → Option WriteFailure := fun _ _ exited =>
    if exited then some { reason := "write EPIPE", code := some "EPIPE" } else none
  /-- How long a write takes to complete, for a target that treats all writes alike. -/
  flush : Option Millis := none
  /-- How a write goes on, given all lines accepted so far, its own the newest. -/
  course : List String → WriteCourse := fun _ => { after := flush }
  /-- How it takes a signal, given the lines accepted so far, for a target that takes the same
  signal always alike. -/
  onKill : List String → String → KillReaction := fun _ signal => .exits signal none
  /-- How it takes a signal, given the lines accepted and the number of signals sent so far. -/
  onSignal : List String → Nat → String → KillReaction := fun accepted _ signal =>
    onKill accepted signal

/-! ## The wire

The output of a target on its way to the session.  Until the session listens, output waits on the
wire; once it does, chunks are handed over as they come, while the end of the output is told to
the session only when the program has nothing else to do. -/

/-- Whether the session listens to the output: not yet, from its next pause on, or already. -/
inductive Listening where
  | not
  | soon
  | already
  deriving DecidableEq, Repr

/-- The state of the output and of the exit, as the target left them. -/
structure Wire where
  listening : Listening := .not
  decoder : Text.Decoder := {}
  /-- Text that waits for the session to listen, oldest first. -/
  held : List String := []
  ended : Bool := false
  destroyed : Bool := false
  /-- The session has not yet been told that the output is over. -/
  closing : Bool := false
  exit : Option Exit := none
  deriving DecidableEq, Repr

/-- The output takes no more data. -/
def Wire.isOver (w : Wire) : Bool := w.ended || w.destroyed

end ConsoleHarness
