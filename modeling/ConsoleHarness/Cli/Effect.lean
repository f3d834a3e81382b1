import ConsoleHarness.Files
import ConsoleHarness.Session.State

/-! # Effects

What an invocation does is a program of effects on its own process.  It ends with a value or with a
cause: a failure that it expected, a defect that it did not, or an interruption.  Only failures can
be caught; a defect or an interruption is left to the teardown, which turns the end of the whole
program into the exit code of its process.
-/

namespace ConsoleHarness

/-- The process of an invocation: what it shows, the files that it leaves, and the exit status that
is asked for. -/
structure Process where
  status : Option Nat := none
  stdout : String := ""
  stderr : String := ""
  files : Files := {}
  deriving Inhabited

/-- Why a program ended without a value. -/
inductive Cause where
  | failed (message : String)
  | died (fault : Fault)
  | interrupted
  /-- One cause, and another one behind it. -/
  | both (first second : Cause)
  deriving DecidableEq, Repr

namespace Cause

/-- The message of the first failure. -/
def failure? : Cause → Option String
  | .failed message => some message
  | .died _ | .interrupted => none
  | .both first second => first.failure?.or second.failure?

/-- There is nothing but an interruption. -/
def isInterruptedOnly : Cause → Bool
  | .interrupted => true
  | .failed _ | .died _ => false
  | .both first second => first.isInterruptedOnly && second.isInterruptedOnly

end Cause

/-- A program of effects. -/
abbrev Effect := ExceptT Cause (StateM Process)

namespace Effect

variable {α : Type}

/-- Asks for an exit status. -/
def setStatus (status : Nat) : Effect Unit := modify ({ · with status := some status })

/-- Writes to the standard output. -/
def putOut (text : String) : Effect Unit := modify fun p => { p with stdout := p.stdout ++ text }

/-- Writes to the standard error. -/
def putError (text : String) : Effect Unit := modify fun p => { p with stderr := p.stderr ++ text }

/-- Leaves other files. -/
def leave (files : Files) : Effect Unit := modify ({ · with files })

/-- Lets a program end in spite of an interruption, which may strike meanwhile and then takes effect
behind it. -/
def uninterruptible (struck : Bool) (effect : Effect α) : Effect α := fun process =>
  match effect process with
  | (.ok a, process) => (if struck then .error .interrupted else .ok a, process)
  | (.error cause, process) =>
    (.error (if struck then .both cause .interrupted else cause), process)

/-- Handles the failures of a program, and nothing else. -/
def catchAll (effect : Effect α) (handler : String → Effect α) : Effect α := fun process =>
  match effect process with
  | (.ok a, process) => (.ok a, process)
  | (.error cause, process) =>
    match cause.failure? with
    | some message => handler message process
    | none => (.error cause, process)

end Effect

/-- The exit code of a process, from the end of its program and the status it asked for.  An
interruption leaves that status as it is. -/
def teardown (exit : Except Cause Unit) (status : Option Nat) : Nat :=
  match exit with
  | .ok () => status.getD 0
  | .error cause => if cause.isInterruptedOnly then status.getD 0 else 1

end ConsoleHarness
