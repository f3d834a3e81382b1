import ConsoleHarness.Bench.Reader
import ConsoleHarness.Session.Script

/-! # Running a script

A line is sent only after the prompt before it was read; whatever goes wrong stops the script.
`heeds` says whether the calls are given the run's signal, `logs` whether they are given a logger.
-/

namespace ConsoleHarness

/-- The incident that a read which missed its prompt stands for. -/
def ReadEnd.miss (reason : ReadEnd) (phase : Phase) (limit : Millis) : Incident :=
  match reason with
  | .interrupted => .promptInterrupted phase
  | .closed => .outputClosed phase
  | .timeout | .marker => .promptMissing phase limit

/-- The outcome of a script that an incident stopped. -/
def ScriptOutcome.stopped (sent : List String) (incident : Incident) : ScriptOutcome where
  status := if incident.kind = .interrupted then .interrupted else .aborted
  sent := sent
  incidents := [incident]

namespace Bench

/-- Stops a script. -/
def stopScript (b : Bench) (logs : Bool) (sent : List String) (incident : Incident) :
    Bench × ScriptOutcome :=
  (b.log logs .warn incident.message, .stopped sent incident)

/-- What came of sending a line: an incident or nothing, and whether its write was completed. -/
structure SendReport where
  completed : Bool
  incident : Option Incident := none
  deriving DecidableEq, Repr

/-- Sends a line of a script and pauses for a moment. -/
def sendScripted (b : Bench) (script : Script) (line : String) (heeds logs : Bool) :
    Bench × Except Fault SendReport :=
  match (b.log logs .info s!"Sending '{line}' command...").sendLine line with
  | (b, .error (.fault fault)) => (b, .error fault)
  | (b, .error (.write failure)) =>
    (b, .ok { completed := false, incident := some (.writeFailed line failure.reason) })
  | (b, .ok ()) =>
    let b := b.settleDelay script.settle heeds
    let incident := if heeds && b.aborted then some (.interruptedAfter line) else none
    (b, .ok { completed := true, incident })

/-- The lines sent, with one more if its write was completed. -/
def SendReport.addTo (report : SendReport) (sent : List String) (line : String) : List String :=
  if report.completed then sent ++ [line] else sent

/-- Sends the commands, each followed by its prompt, then the shutdown command. -/
def runCommands (b : Bench) (script : Script) (heeds logs : Bool) (sent : List String) :
    List String → Bench × Except Fault ScriptOutcome
  | [] =>
    match b.sendScripted script script.shutdownCommand heeds logs with
    | (b, .error fault) => (b, .error fault)
    | (b, .ok report) =>
      let sent := report.addTo sent script.shutdownCommand
      match report.incident with
      | some incident => (b.stopScript logs sent incident).map id .ok
      | none => (b, .ok { status := .completed, sent, incidents := [] })
  | command :: rest =>
    match b.sendScripted script command heeds logs with
    | (b, .error fault) => (b, .error fault)
    | (b, .ok report) =>
      let sent := report.addTo sent command
      match report.incident with
      | some incident => (b.stopScript logs sent incident).map id .ok
      | none =>
        match b.readUntil script.prompt script.promptTimeout heeds with
        | (b, .error fault) => (b, .error fault)
        | (b, .ok reading) =>
          if reading.found then runCommands b script heeds logs sent rest
          else
            (b.stopScript logs sent (reading.reason.miss .command script.promptTimeout)).map id .ok

/-- Runs a script: the boot prompt, then the commands. -/
def runScript (b : Bench) (script : Script) (heeds logs : Bool) :
    Bench × Except Fault ScriptOutcome :=
  match (b.log logs .info "Waiting for shell...").readUntil script.prompt script.bootTimeout heeds
  with
  | (b, .error fault) => (b, .error fault)
  | (b, .ok reading) =>
    if reading.found then b.runCommands script heeds logs [] script.commands
    else (b.stopScript logs [] (reading.reason.miss .boot script.bootTimeout)).map id .ok

end Bench

end ConsoleHarness
