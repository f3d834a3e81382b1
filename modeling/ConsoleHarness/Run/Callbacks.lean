import ConsoleHarness.Run.Basic

/-! # Scripts among callbacks

While a script runs, each unit that is consumed goes to a mirror and each line that is logged goes
to a logger, and other jobs of the process have their turn wherever the program awaits something.
This is code of others.  A signal to the process, or anything else that happens, has its own turn on
the agenda; the code of others is called at moments at which nothing of the agenda can take place,
and it may cancel the run then and there.

`Bench.runScriptWith` is a script with such callbacks and `RunSetup.runWith` a run, up to the end of
its script.  From then on a run hands nothing over, whoever is called.  If the callbacks only take
what they are given, these are the script and the run without them (`RunSetup.runWith_eq_run`).
-/

namespace ConsoleHarness

/-- Whether the code of others cancels the run when it is called. -/
structure Callbacks where
  mirror : Bench → Bool := fun _ => false
  logger : Bench → Bool := fun _ => false
  /-- The jobs that have their turn before the program goes on. -/
  jobs : Bench → Bool := fun _ => false

/-- Callbacks that only take what they are given, which is what a mirror and a logger are for. -/
structure Callbacks.Receive (callbacks : Callbacks) : Prop where
  mirror : ∀ b, callbacks.mirror b = false
  logger : ∀ b, callbacks.logger b = false
  jobs : ∀ b, callbacks.jobs b = false

namespace Bench

/-- The code of others has its turn. -/
def giveWay (b : Bench) (cancels : Bench → Bool) : Bench := if cancels b then b.interrupt else b

@[simp] theorem clock_giveWay (b : Bench) (cancels : Bench → Bool) :
    (b.giveWay cancels).clock = b.clock := by
  unfold giveWay; split <;> simp

@[simp] theorem weight_giveWay (b : Bench) (cancels : Bench → Bool) :
    (b.giveWay cancels).weight = b.weight := by
  unfold giveWay; split <;> simp

/-! ## Reads -/

section Reads

variable (callbacks : Callbacks)

/-- The bench after a chunk was recorded whole, and mirrored. -/
def recordChunkWith (b : Bench) (chunk : String) (session : Session) :
    Bench × Except Fault Unit :=
  match b.recordChunk chunk session with
  | (b, .error fault) => (b, .error fault)
  | (b, .ok ()) => (b.giveWay callbacks.mirror, .ok ())

/-- The bench after the part of a chunk up to the marker was recorded and mirrored, and the rest was
returned. -/
def recordMarkedWith (b : Bench) (chunk : String) (session : Session) (count : Nat) :
    Bench × Except Fault String :=
  let unit := String.ofList (chunk.toList.take count)
  match (b.withSession session).record unit with
  | (b, .error fault) => (b, .error fault)
  | (b, .ok ()) =>
    let b := b.giveWay callbacks.mirror
    let rest := String.ofList (chunk.toList.drop count)
    ((b.withSession (b.session.pushBack rest)).markPromptReady, .ok unit)

theorem weight_recordChunkWith_lt {b : Bench} {chunk : String} {session : Session}
    (taken : b.session.takeChunk = some (chunk, session)) :
    (b.recordChunkWith callbacks chunk session).1.weight < b.weight := by
  have lighter := weight_recordChunk_lt taken
  unfold recordChunkWith
  split <;> rename_i same <;> rw [same] at lighter
  · exact lighter
  · rwa [weight_giveWay]

/-- The loop of a read. -/
def readLoopWith (marker : List Char) (deadline : Millis) (heeds : Bool) (window : List Char)
    (text : String) (b : Bench) : Bench × Except Fault (ReadEnd × String) :=
  if _ : heeds && b.aborted then (b, .ok (.interrupted, text))
  else
    match _ : b.session.takeChunk with
    | some (chunk, session) =>
      match Marker.endIn? marker window 0 chunk.toList with
      | some count =>
        match b.recordMarkedWith callbacks chunk session count with
        | (b, .error fault) => (b, .error fault)
        | (b, .ok unit) => (b, .ok (.marker, text ++ unit))
      | none =>
        match (b.recordChunkWith callbacks chunk session).2 with
        | .error fault => ((b.recordChunkWith callbacks chunk session).1, .error fault)
        | .ok () =>
          readLoopWith marker deadline heeds (Marker.windowAfter marker window chunk.toList)
            (text ++ chunk) (b.recordChunkWith callbacks chunk session).1
    | none =>
      if _ : b.session.outputClosed then (b, .ok (.closed, text))
      else if _ : deadline - b.clock ≤ 0 then (b, .ok (.timeout, text))
      else
        readLoopWith marker deadline heeds window text
          ((b.waitForOutput (deadline - b.clock) heeds).giveWay callbacks.jobs)
  termination_by (b.weight, b.timeLeft deadline)
  decreasing_by
    · exact .left _ _ (weight_recordChunkWith_lt callbacks ‹_›)
    · rename_i unheeded taken closed left
      rw [weight_giveWay, timeLeft, clock_giveWay]
      exact waitForOutput_lex taken (by simpa using closed) (by simpa using unheeded) left

/-- Reads until the text of this call ends with the marker. -/
def readUntilWith (b : Bench) (marker : String) (limit : Millis) (heeds : Bool) :
    Bench × Except Fault Reading :=
  if marker.isEmpty then (b, .error .emptyMarker)
  else
    match readLoopWith callbacks marker.toList (b.clock + limit) heeds [] "" b with
    | (after, .error fault) => (after, .error fault)
    | (after, .ok (reason, text)) =>
      (after.giveWay callbacks.jobs, .ok { reason, text, elapsed := after.clock - b.clock })

end Reads

/-! ## Scripts -/

section Scripts

variable (callbacks : Callbacks)

/-- Hands a line to the logger, if the call has one. -/
def logWith (b : Bench) (logs : Bool) (level : LogLevel) (message : String) : Bench :=
  if logs then (b.note (.logged level message)).giveWay callbacks.logger else b

/-- Stops a script. -/
def stopScriptWith (b : Bench) (logs : Bool) (sent : List String) (incident : Incident) :
    Bench × ScriptOutcome :=
  (b.logWith callbacks logs .warn incident.message, .stopped sent incident)

/-- Sends a line of a script and pauses for a moment. -/
def sendScriptedWith (b : Bench) (script : Script) (line : String) (heeds logs : Bool) :
    Bench × Except Fault SendReport :=
  match (b.logWith callbacks logs .info s!"Sending '{line}' command...").sendLine line with
  | (b, .error (.fault fault)) => (b, .error fault)
  | (b, .error (.write failure)) =>
    (b.giveWay callbacks.jobs,
      .ok { completed := false, incident := some (.writeFailed line failure.reason) })
  | (b, .ok ()) =>
    let b := ((b.giveWay callbacks.jobs).settleDelay script.settle heeds).giveWay callbacks.jobs
    let incident := if heeds && b.aborted then some (.interruptedAfter line) else none
    -- The look at the cancellation is the last thing before the caller of this goes on.
    (b.giveWay callbacks.jobs, .ok { completed := true, incident })

/-- Sends the commands, each followed by its prompt, then the shutdown command. -/
def runCommandsWith (b : Bench) (script : Script) (heeds logs : Bool) (sent : List String) :
    List String → Bench × Except Fault ScriptOutcome
  | [] =>
    match b.sendScriptedWith callbacks script script.shutdownCommand heeds logs with
    | (b, .error fault) => (b, .error fault)
    | (b, .ok report) =>
      let sent := report.addTo sent script.shutdownCommand
      match report.incident with
      | some incident => (b.stopScriptWith callbacks logs sent incident).map id .ok
      | none => (b, .ok { status := .completed, sent, incidents := [] })
  | command :: rest =>
    match b.sendScriptedWith callbacks script command heeds logs with
    | (b, .error fault) => (b, .error fault)
    | (b, .ok report) =>
      let sent := report.addTo sent command
      match report.incident with
      | some incident => (b.stopScriptWith callbacks logs sent incident).map id .ok
      | none =>
        match b.readUntilWith callbacks script.prompt script.promptTimeout heeds with
        | (b, .error fault) => (b, .error fault)
        | (b, .ok reading) =>
          if reading.found then runCommandsWith b script heeds logs sent rest
          else
            (b.stopScriptWith callbacks logs sent
              (reading.reason.miss .command script.promptTimeout)).map id .ok

/-- Runs a script: the boot prompt, then the commands. -/
def runScriptWith (b : Bench) (script : Script) (heeds logs : Bool) :
    Bench × Except Fault ScriptOutcome :=
  match (b.logWith callbacks logs .info "Waiting for shell...").readUntilWith callbacks
    script.prompt script.bootTimeout heeds
  with
  | (b, .error fault) => (b, .error fault)
  | (b, .ok reading) =>
    if reading.found then b.runCommandsWith callbacks script heeds logs [] script.commands
    else
      (b.stopScriptWith callbacks logs [] (reading.reason.miss .boot script.bootTimeout)).map id .ok

/-- A session from its start on. -/
def runSessionWith (b : Bench) (config : Config) : Bench × Except Fault SessionRun :=
  match b.start with
  | (b, .error fault) => (b, .error fault)
  | (b, .ok ()) =>
    (afterScript config (b.runScriptWith callbacks config.script true true)).map neverLeave id

end Scripts

end Bench

/-- A complete run whose script has callbacks. -/
def RunSetup.runWith (callbacks : Callbacks) (setup : RunSetup) (files : Files) : RunResult :=
  match setup.launched with
  | .error reason =>
    { bench := (setup.opening {}).detach, files, report := .error (.launch reason) }
  | .ok target =>
    setup.ending files
      (((setup.opening target).runSessionWith callbacks setup.config).map Bench.detach id)

end ConsoleHarness
