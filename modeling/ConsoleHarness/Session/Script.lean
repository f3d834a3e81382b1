import ConsoleHarness.Session.State

/-! # Scripts and their outcomes -/

namespace ConsoleHarness

/-- The scripted exchange: after the boot prompt, each command and its prompt, then the shutdown
command. -/
structure Script where
  prompt : String
  bootTimeout : Millis
  promptTimeout : Millis
  /-- The pause after each line. -/
  settle : Millis
  commands : List String
  shutdownCommand : String
  deriving DecidableEq, Repr

/-- All lines of a script, in the order in which they are sent. -/
def Script.lines (s : Script) : List String := s.commands ++ [s.shutdownCommand]

/-- How a script ended. -/
inductive ScriptStatus where
  | completed
  | aborted
  | interrupted
  deriving DecidableEq, Repr

/-- The name of a status. -/
def ScriptStatus.text : ScriptStatus → String
  | .completed => "completed"
  | .aborted => "aborted"
  | .interrupted => "interrupted"

/-- What came of a script: how it ended, the lines whose write was completed, and the incident that
stopped it, if one did. -/
structure ScriptOutcome where
  status : ScriptStatus
  sent : List String
  incidents : List Incident
  deriving DecidableEq, Repr

/-- How long the end of a session may take. -/
structure Timeouts where
  exit : Millis
  killGrace : Millis
  drain : Millis
  deriving DecidableEq, Repr

/-- A session brought to its end. -/
structure Settled where
  state : SessionState
  transcript : String
  incidents : List Incident
  deriving DecidableEq, Repr

end ConsoleHarness
