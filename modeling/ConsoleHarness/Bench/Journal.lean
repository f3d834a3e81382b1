import ConsoleHarness.Session.Basic

/-! # The journal of a run

Everything that can be observed of a run is written down in the order in which it happened, with
the moment at which it did: output arriving and being consumed, prompts, writes, signals, log
lines, printed lines, and the session as it stands whenever the program is paused.  Log, writes,
kills and mirrored output are read off the journal.
-/

namespace ConsoleHarness

/-- The severity of a log line. -/
inductive LogLevel where
  | info
  | warn
  | error
  deriving DecidableEq, Repr

/-- The name of a severity. -/
def LogLevel.text : LogLevel → String
  | .info => "info"
  | .warn => "warn"
  | .error => "error"

/-- Something that happened in a run. -/
inductive Event where
  /-- A chunk of output became pending. -/
  | arrived (chunk : String)
  /-- The session learned that the output is over. -/
  | closed
  /-- A unit of output was consumed into the transcript. -/
  | recorded (unit : String)
  /-- A prompt was read. -/
  | prompted
  /-- A text was handed to the target, which took or refused it. -/
  | wrote (text : String) (accepted : Bool)
  /-- A write that the target took was completed. -/
  | written (text : String)
  /-- A signal was sent to the target, delivered or not. -/
  | killed (signal : String) (delivered : Bool)
  /-- The session learned of the exit. -/
  | exited (exit : Exit)
  /-- The run was cancelled. -/
  | aborted
  /-- A line was logged. -/
  | logged (level : LogLevel) (message : String)
  /-- The program is paused, and this is what it would find if it went on now. -/
  | paused (session : Session)
  /-- The transcript was sealed. -/
  | sealed
  /-- A line of the report was printed. -/
  | printed (line : String)
  deriving DecidableEq, Repr

/-- An event and its moment. -/
structure Entry where
  moment : Millis
  event : Event
  deriving DecidableEq, Repr

namespace Event

/-- The text of a write that was accepted. -/
def write? : Event → Option String
  | .wrote text true => some text
  | _ => none

/-- A text that was handed to the target, taken or not. -/
def handed? : Event → Option String
  | .wrote text _ => some text
  | _ => none

/-- The text of a write that was completed. -/
def written? : Event → Option String
  | .written text => some text
  | _ => none

/-- The name of a signal that was delivered. -/
def kill? : Event → Option String
  | .killed signal true => some signal
  | _ => none

/-- A consumed unit. -/
def unit? : Event → Option String
  | .recorded unit => some unit
  | _ => none

/-- A printed line. -/
def line? : Event → Option String
  | .printed line => some line
  | _ => none

/-- A chunk that arrived. -/
def chunk? : Event → Option String
  | .arrived chunk => some chunk
  | _ => none

end Event

end ConsoleHarness
