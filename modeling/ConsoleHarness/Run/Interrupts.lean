/-! # Interrupts

Signals sent to the run's own process can be routed to *controllers*: each installation listens to
some signals, and any of them aborts its controller.  Taking an installation back removes its
listeners and no others.
-/

namespace ConsoleHarness

/-- A controller that listens to some signals. -/
structure Installation where
  controller : Nat
  signals : List String
  /-- Still listening. -/
  active : Bool := true
  deriving DecidableEq, Repr

/-- All installations made so far, oldest first, and the controllers aborted. -/
structure Interrupts where
  installations : List Installation := []
  aborted : List Nat := []
  deriving DecidableEq, Repr, Inhabited

namespace Interrupts

/-- The signals that an installation listens to if it names none. -/
def defaultSignals : List String := ["SIGINT", "SIGTERM"]

/-- Listens to signals on behalf of a controller. -/
def install (i : Interrupts) (controller : Nat) (signals : List String := defaultSignals) :
    Interrupts :=
  { i with installations := i.installations ++ [{ controller, signals }] }

/-- Takes an installation back; a second time does nothing. -/
def dispose (i : Interrupts) (index : Nat) : Interrupts :=
  { i with installations := i.installations.modify index ({ · with active := false }) }

/-- The installations that listen to a signal. -/
def listening (i : Interrupts) (signal : String) : List Installation :=
  i.installations.filter fun installation =>
    installation.active && installation.signals.contains signal

/-- A signal arrives: every controller that listens to it is aborted. -/
def deliver (i : Interrupts) (signal : String) : Interrupts :=
  { i with aborted := i.aborted ++ (i.listening signal).map (·.controller) }

/-- How many listeners a signal has. -/
def listenerCount (i : Interrupts) (signal : String) : Nat :=
  ((i.installations.filter (·.active)).flatMap (·.signals)).count signal

/-- Whether a controller is aborted. -/
def isAborted (i : Interrupts) (controller : Nat) : Bool := i.aborted.contains controller

end Interrupts

end ConsoleHarness
