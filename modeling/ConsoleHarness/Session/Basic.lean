import ConsoleHarness.Session.Transcript

/-! # The session

One run of the emulated target, as the program sees it: the output not yet consumed, the transcript
of everything that was, and the flags that decide which calls are allowed.  All operations are
plain functions on the session; what they ask of the target is done on the bench.
-/

namespace ConsoleHarness

/-- The state of a session. -/
structure Session where
  state : SessionState := .created
  /-- Output that has arrived and is not consumed, oldest first. -/
  pending : List String := []
  outputClosed : Bool := false
  /-- A prompt was read and no line was sent since. -/
  promptReady : Bool := false
  /-- A kill was delivered to the target. -/
  killRequested : Bool := false
  /-- The exit of the target, once it is known. -/
  exit : Option Exit := none
  transcript : Transcript := {}
  deriving DecidableEq, Repr, Inhabited

namespace Session

/-! ## What arrives from the target -/

/-- A chunk of output arrives.  An empty chunk is none. -/
def enqueue (s : Session) (chunk : String) : Session :=
  if chunk.isEmpty then s else { s with pending := s.pending ++ [chunk] }

/-- The output ends, is closed, or fails: all three are the end of the stream. -/
def closeOutput (s : Session) : Session := { s with outputClosed := true }

/-- The exit becomes known.  The first one stays. -/
def recordExit (s : Session) (exit : Exit) : Session :=
  match s.exit with
  | some _ => s
  | none => { s with exit := some exit }

/-! ## What the program asks for -/

/-- Starts listening to the target. -/
def start (s : Session) : Except Fault Session :=
  if s.state = .created then .ok { s with state := .running }
  else .error (.startedTwice s.state)

/-- Takes the oldest chunk of pending output. -/
def takeChunk (s : Session) : Option (String × Session) :=
  match s.pending with
  | [] => none
  | chunk :: rest => some (chunk, { s with pending := rest })

/-- Returns unconsumed text to the front of the pending output. -/
def pushBack (s : Session) (rest : String) : Session :=
  if rest.isEmpty then s else { s with pending := rest :: s.pending }

/-- Adds a consumed unit to the transcript. -/
def record (s : Session) (unit : String) : Except Fault Session :=
  match s.transcript.append unit with
  | .ok transcript => .ok { s with transcript }
  | .error fault => .error fault

/-- Notes that a prompt was read. -/
def markPromptReady (s : Session) : Session := { s with promptReady := true }

/-- Uses up the prompt for a line: allowed while running, once per prompt. -/
def claimPrompt (s : Session) (line : String) : Except Fault Session :=
  if s.state ≠ .running then .error (.sendOutsideRun line s.state)
  else if s.promptReady then .ok { s with promptReady := false }
  else .error (.sendWithoutPrompt line s.state)

/-- Notes that a kill was delivered. -/
def markKilled (s : Session) : Session := { s with killRequested := true }

/-- Moves the session to its terminal state and seals the transcript. -/
def finish (s : Session) : Session :=
  { s with
    state :=
      if s.state.isTerminal then s.state
      else if s.killRequested then .killed
      else .completed
    promptReady := false
    transcript := s.transcript.close }

end Session

end ConsoleHarness
