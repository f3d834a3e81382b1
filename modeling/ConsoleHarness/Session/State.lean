import ConsoleHarness.Clock

/-! # States, faults and incidents of a session

A *fault* stops the call that raised it: a call made in the wrong state, an empty marker, an append
to a sealed transcript, a launch that failed outright.  An *incident* is recovered from: it is
collected, logged, and the run goes on to its verdict.
-/

namespace ConsoleHarness

/-- Where a session stands.  `completed` and `killed` are terminal. -/
inductive SessionState where
  | created
  | running
  | completed
  | killed
  deriving DecidableEq, Repr, Inhabited

namespace SessionState

/-- The name of a state. -/
def text : SessionState → String
  | .created => "created"
  | .running => "running"
  | .completed => "completed"
  | .killed => "killed"

/-- Whether a session in this state has ended. -/
def isTerminal : SessionState → Bool
  | .completed | .killed => true
  | .created | .running => false

end SessionState

/-- How a target ended: an exit code, a signal, or the failure that kept it from running. -/
structure Exit where
  code : Option Int := none
  signal : Option String := none
  failure : Option String := none
  deriving DecidableEq, Repr, Inhabited

/-! ## Faults -/

/-- Why a call was refused. -/
inductive Fault where
  | startedTwice (state : SessionState)
  | sendOutsideRun (line : String) (state : SessionState)
  | sendWithoutPrompt (line : String) (state : SessionState)
  | emptyMarker
  | sealedTranscript
  | launch (reason : String)
  deriving DecidableEq, Repr

namespace Fault

/-- The text of a fault. -/
def message : Fault → String
  | .startedTwice state => s!"Session cannot start from state {state.text}."
  | .sendOutsideRun line state => s!"Cannot send \"{line}\" while the session is {state.text}."
  | .sendWithoutPrompt line _ => s!"Cannot send \"{line}\" before a prompt was detected."
  | .emptyMarker => "Marker must be a non-empty string."
  | .sealedTranscript => "Transcript is sealed; the session has already ended."
  | .launch reason => reason

/-- The state of the session, for a call that came in the wrong state. -/
def state? : Fault → Option SessionState
  | .startedTwice state | .sendOutsideRun _ state | .sendWithoutPrompt _ state => some state
  | _ => none

end Fault

/-! ## Incidents -/

/-- The kinds of incidents. -/
inductive IncidentKind where
  | bootTimeout
  | promptTimeout
  | streamClosed
  | shutdownTimeout
  | interrupted
  | launchFailed
  deriving DecidableEq, Repr

/-- The part of a script during which a prompt is awaited. -/
inductive Phase where
  | boot
  | command
  deriving DecidableEq, Repr

/-- The name of a phase. -/
def Phase.text : Phase → String
  | .boot => "boot"
  | .command => "command"

/-- What went wrong, with the data that its text needs. -/
inductive Incident where
  | promptInterrupted (phase : Phase)
  | outputClosed (phase : Phase)
  | promptMissing (phase : Phase) (limit : Millis)
  | writeFailed (line reason : String)
  | interruptedAfter (line : String)
  | shutdownMissing (limit : Millis)
  | interruptedExit
  | launchFailed (command reason : String)
  deriving DecidableEq, Repr

namespace Incident

/-- The kind of an incident. -/
def kind : Incident → IncidentKind
  | .promptInterrupted _ | .interruptedAfter _ | .interruptedExit => .interrupted
  | .outputClosed _ | .writeFailed .. => .streamClosed
  | .promptMissing .boot _ => .bootTimeout
  | .promptMissing .command _ => .promptTimeout
  | .shutdownMissing _ => .shutdownTimeout
  | .launchFailed .. => .launchFailed

/-- The text of an incident. -/
def message : Incident → String
  | .promptInterrupted phase => s!"Interrupted while waiting for the {phase.text} prompt."
  | .outputClosed phase => s!"Console output closed before the {phase.text} prompt appeared."
  | .promptMissing .boot limit => s!"Shell prompt not found within {limit.text}ms of boot."
  | .promptMissing .command limit => s!"Prompt did not return within {limit.text}ms."
  | .writeFailed line reason => s!"Could not write '{line}' to the console: {reason}"
  | .interruptedAfter line => s!"Interrupted after sending '{line}'."
  | .shutdownMissing limit => s!"Emulator did not shut down within {limit.text}ms, killing..."
  | .interruptedExit => "Interrupted, killing emulator..."
  | .launchFailed command reason => s!"Could not run {command}: {reason}"

/-- The text of the error behind an incident, if one is. -/
def cause : Incident → Option String
  | .writeFailed _ reason | .launchFailed _ reason => some reason
  | _ => none

end Incident

end ConsoleHarness
