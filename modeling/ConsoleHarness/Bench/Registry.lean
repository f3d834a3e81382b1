import ConsoleHarness.Clock

/-! # Registrations

A pause of the program is over once one of several callbacks has run: that of its timer, of its place
among those who wait for output, of its listener to the cancellation, or its reaction to the exit.
The one that runs takes the others back and resolves the pause.  A reaction to the exit is the
exception: nothing takes it back, so a pause that waits for the exit looks first whether it is over.
-/

namespace ConsoleHarness

/-- What ends a pause. -/
structure Bench.Wait where
  /-- A timer, with the delay it counts. -/
  timer : Option Nat := none
  /-- Output, or its end. -/
  output : Bool := false
  /-- The exit of the target. -/
  exit : Bool := false
  /-- The cancellation of the run. -/
  abort : Bool := false
  deriving DecidableEq, Repr

/-- A function that is called back on behalf of a pause. -/
structure Callback where
  pause : Nat
  /-- It does nothing if its pause is over already. -/
  guarded : Bool
  deriving DecidableEq, Repr

/-- What callbacks are called for. -/
inductive Stimulus where
  /-- Output arrives, or it is over. -/
  | output
  /-- The exit is there. -/
  | exit
  /-- The run is cancelled. -/
  | abort
  /-- The timer of a pause runs out. -/
  | timer (pause : Nat)
  deriving DecidableEq, Repr

/-- What is waited for at present. -/
structure Registry where
  timers : List (Callback × Millis) := []
  waiters : List Callback := []
  abortListeners : List Callback := []
  exitReactions : List Callback := []
  /-- The pauses that were resolved, oldest first; one resolved twice would stand here twice. -/
  resolved : List Nat := []
  nextPause : Nat := 0
  deriving DecidableEq, Repr

namespace Registry

/-- Registers a pause, with the moment at which its timer runs out. -/
def enlist (r : Registry) (w : Bench.Wait) (due : Option Millis) : Registry :=
  let callback : Callback := { pause := r.nextPause, guarded := w.exit }
  { r with
    timers := r.timers ++ (due.map (callback, ·)).toList
    waiters := if w.output then r.waiters ++ [callback] else r.waiters
    abortListeners := if w.abort then r.abortListeners ++ [callback] else r.abortListeners
    exitReactions := if w.exit then r.exitReactions ++ [callback] else r.exitReactions
    nextPause := r.nextPause + 1 }

/-- Takes back the timer of a pause, its place among the waiters and its listener, and resolves it. -/
def resolve (r : Registry) (pause : Nat) : Registry :=
  { r with
    timers := r.timers.filter (·.1.pause ≠ pause)
    waiters := r.waiters.filter (·.pause ≠ pause)
    abortListeners := r.abortListeners.filter (·.pause ≠ pause)
    resolved := r.resolved ++ [pause] }

/-- A callback runs. -/
def call (r : Registry) (callback : Callback) : Registry :=
  if callback.guarded && r.resolved.contains callback.pause then r else r.resolve callback.pause

/-- Calls all who wait for output, as they stand there at the beginning. -/
def wake (r : Registry) : Registry := r.waiters.foldl call r

/-- Calls those who have reacted to nothing yet; each reaction is used up. -/
def answer (r : Registry) : Registry := r.exitReactions.foldl call { r with exitReactions := [] }

/-- Calls a listener for the one time that it listens, unless it was taken back before its turn. -/
def callOnce (r : Registry) (listener : Callback) : Registry :=
  if r.abortListeners.contains listener then
    { r with abortListeners := r.abortListeners.erase listener }.call listener
  else r

/-- Calls all who listen to the cancellation. -/
def cancel (r : Registry) : Registry := r.abortListeners.foldl callOnce r

/-- Calls a timer that has run out, if it is still there. -/
def expire (r : Registry) (pause : Nat) : Registry :=
  match r.timers.find? (·.1.pause = pause) with
  | some timer => { r with timers := r.timers.erase timer }.call timer.1
  | none => r

/-- Makes the calls that something gives cause to. -/
def hear (r : Registry) : Stimulus → Registry
  | .output => r.wake
  | .exit => r.answer
  | .abort => r.cancel
  | .timer pause => r.expire pause

end Registry

end ConsoleHarness
