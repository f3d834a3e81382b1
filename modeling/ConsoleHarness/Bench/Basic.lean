import ConsoleHarness.Bench.Journal
import ConsoleHarness.Bench.Registry
import ConsoleHarness.Run.Interrupts
import ConsoleHarness.Session.Basic
import ConsoleHarness.Session.Target

/-! # The bench

A session and its target on a common clock.  Time stands still while the program has something to
do.  When it pauses, the earliest item of the *agenda* (what the target and the outside world have
planned) takes place, and the program is asked whether that ends its pause; a timer of the program
ends it after all agenda items of the same moment.

A pause registers what it listens to and lets the agenda run; whatever happens meanwhile makes its
calls (`Bench.note`, `Bench.leave`), and if nothing has ended the pause by then its timer does.
-/

namespace ConsoleHarness

/-! ## The agenda -/

/-- What an agenda item does when it is due. -/
inductive Move where
  | act (action : Action)
  /-- A write completes. -/
  | flushed
  deriving DecidableEq, Repr

/-- A move and its moment. -/
structure Item where
  due : Millis
  move : Move
  deriving DecidableEq, Repr

/-- Puts an item after all items that are due no later. -/
def Agenda.insert (item : Item) : List Item → List Item
  | [] => [item]
  | first :: rest =>
    if first.due ≤ item.due then first :: Agenda.insert item rest else item :: first :: rest

/-! ## Cancellation -/

/-- How a cancellation reaches the run. -/
inductive CancelRoute where
  /-- The calls are given the signal that is cancelled. -/
  | direct
  /-- The run forwards the cancellation of another signal to its own while it listens. -/
  | forwarded
  /-- The run listens to signals sent to its own process, by the numbered installation; cancelling
  sends the named one. -/
  | processSignal (name : String) (installation : Nat)
  deriving DecidableEq, Repr

/-- Who listens to the cancellation of the signal that a run is given. -/
inductive Outside.Listener where
  | run
  | other (number : Nat)
  deriving DecidableEq, Repr

/-- What a run finds outside of it to listen to. -/
structure Outside where
  /-- The listeners of the signal that the run is given, oldest first. -/
  listeners : List Outside.Listener := []
  /-- The handlers of signals to the run's own process. -/
  interrupts : Interrupts := {}
  deriving DecidableEq, Repr, Inhabited

namespace Outside

/-- The run listens to the signal that it is given. -/
def listen (o : Outside) : Outside := { o with listeners := o.listeners ++ [.run] }

/-- The run does not listen to the signal any more. -/
def unlisten (o : Outside) : Outside := { o with listeners := o.listeners.erase .run }

/-- Handlers of the usual signals are installed for the run. -/
def install (o : Outside) : Outside := { o with interrupts := o.interrupts.install 0 }

/-- The handlers of an installation are removed. -/
def dispose (o : Outside) (installation : Nat) : Outside :=
  { o with interrupts := o.interrupts.dispose installation }

end Outside

/-- What an event calls back for.  The exit calls when it is there, which may be before the session
learns of it. -/
def Event.stimulus? : Event → Option Stimulus
  | .arrived _ | .closed => some .output
  | .aborted => some .abort
  | _ => none

/-! ## The bench -/

/-- A session, its target, and all that is going on between them. -/
structure Bench where
  target : Target := {}
  session : Session := {}
  wire : Wire := {}
  clock : Millis := 0
  agenda : List Item := []
  /-- The run's own signal is aborted. -/
  aborted : Bool := false
  route : CancelRoute := .direct
  outside : Outside := {}
  registry : Registry := {}
  /-- The number of writes handed over, and the lines accepted, oldest first. -/
  attempts : Nat := 0
  accepted : List String := []
  /-- The number of signals sent to the target. -/
  signals : Nat := 0
  /-- What happened so far, newest first. -/
  journal : List Entry := []

namespace Bench

/-- An event takes place: it is written into the journal, and whoever waits for it is called. -/
def note (b : Bench) (event : Event) : Bench :=
  { b with
    journal := ⟨b.clock, event⟩ :: b.journal
    registry := event.stimulus?.elim b.registry b.registry.hear }

/-- Writes down that the program is paused. -/
def notePause (b : Bench) : Bench := b.note (.paused b.session)

/-- Writes a log line, if the call has a logger. -/
def log (b : Bench) (logs : Bool) (level : LogLevel) (message : String) : Bench :=
  if logs then b.note (.logged level message) else b

/-- Puts a move on the agenda, `after` from now. -/
def schedule (b : Bench) (after : Millis) (move : Move) : Bench :=
  { b with agenda := Agenda.insert ⟨b.clock + after, move⟩ b.agenda }

/-- The bench with another state of the wire. -/
def withWire (b : Bench) (wire : Wire) : Bench := { b with wire }

/-- The bench with another state of the session. -/
def withSession (b : Bench) (session : Session) : Bench := { b with session }

/-- The bench with another agenda. -/
def withAgenda (b : Bench) (agenda : List Item) : Bench := { b with agenda }

/-- The clock moves on to a moment, never back. -/
def moveTo (b : Bench) (moment : Millis) : Bench :=
  { b with clock := if b.clock ≤ moment then moment else b.clock }

/-! ## What the target does -/

/-- Hands a chunk of output to the session. -/
def deliver (b : Bench) (chunk : String) : Bench :=
  if chunk.isEmpty then b
  else (b.withSession (b.session.enqueue chunk)).note (.arrived chunk)

/-- A chunk leaves the decoder: handed over if the session listens, held otherwise. -/
def push (b : Bench) (chunk : String) : Bench :=
  if b.wire.listening = .already then b.deliver chunk
  else if chunk.isEmpty then b
  else b.withWire { b.wire with held := b.wire.held ++ [chunk] }

/-- The session learns that the output is over. -/
def closeOutput (b : Bench) : Bench :=
  if b.session.outputClosed then b
  else (b.withSession b.session.closeOutput).note .closed

/-- The session learns of the exit. -/
def recordExit (b : Bench) (exit : Exit) : Bench :=
  if b.session.exit.isSome then b
  else (b.withSession (b.session.recordExit exit)).note (.exited exit)

/-- The output ends.  A character left incomplete is replaced if the session listens by then. -/
def endOutput (b : Bench) : Bench :=
  if b.wire.isOver then b.withWire { b.wire with ended := true }
  else
    (b.withWire { b.wire with ended := true, closing := true }).push
      (if b.wire.listening = .not then "" else String.ofList b.wire.decoder.finish)

/-- An exit is left on the wire, and whoever waits for it is called. -/
def leave (b : Bench) (exit : Exit) : Bench :=
  { b with wire := { b.wire with exit := some exit }, registry := b.registry.hear .exit }

/-- The target exits; only its first exit counts. -/
def exitTarget (b : Bench) (exit : Exit) : Bench :=
  if b.wire.listening = .not then b.leave exit else (b.leave exit).recordExit exit

/-- Some bytes of output appear. -/
def emit (b : Bench) (bytes : List UInt8) : Bench :=
  if b.wire.isOver then b
  else
    (b.withWire { b.wire with decoder := (b.wire.decoder.feed bytes).1 }).push
      (String.ofList (b.wire.decoder.feed bytes).2)

/-- The output is closed without an end.  What a session that does not listen yet could still have
read is lost. -/
def destroyOutput (b : Bench) : Bench :=
  if b.wire.isOver then b.withWire { b.wire with destroyed := true }
  else if b.wire.listening = .not then b.withWire { b.wire with destroyed := true, held := [] }
  else b.withWire { b.wire with destroyed := true, closing := true }

/-- Whether a cancellation reaches the run. -/
def reached (b : Bench) : Bool :=
  match b.route with
  | .direct => true
  | .forwarded => b.outside.listeners.contains .run
  | .processSignal name installation =>
    b.outside.interrupts.installations[installation]?.any fun handlers =>
      handlers.active && handlers.signals.contains name

/-- The run is cancelled.  It listens to the signal that it was given for one time only. -/
def interrupt (b : Bench) : Bench :=
  if b.reached && !b.aborted then
    { b with aborted := true, outside := b.outside.unlisten }.note .aborted
  else b

/-- Something happens. -/
def act (b : Bench) : Action → Bench
  | .emit bytes => b.emit bytes
  | .finishOutput => b.endOutput
  | .failOutput => if b.wire.listening = .not then b else b.closeOutput
  | .destroyOutput => b.destroyOutput
  | .exit exit => if b.wire.exit.isSome then b else b.endOutput.exitTarget exit
  | .exitOnly exit => if b.wire.exit.isSome then b else b.exitTarget exit
  | .interrupt => b.interrupt

/-- An agenda item takes place. -/
def make (b : Bench) : Move → Bench
  | .act action => b.act action
  | .flushed => b

/-! ## Ticks

What happened on the wire reaches the session once the program has nothing else to do: first the
output that was held, then the exit, then the end of the output. -/

/-- The session gets what was held for it. -/
def handOver (b : Bench) : Bench :=
  b.wire.held.foldl deliver (b.withWire { b.wire with listening := .already, held := [] })

/-- The session learns of an exit that came before it listened. -/
def tellExit (b : Bench) : Bench :=
  match b.wire.exit with
  | some exit => b.recordExit exit
  | none => b

/-- The session learns that the output is over. -/
def tellEnd (b : Bench) : Bench :=
  if b.wire.closing then (b.withWire { b.wire with closing := false }).closeOutput else b

/-- What happens on the wire when the program has nothing else to do. -/
def tick (b : Bench) : Bench :=
  if b.wire.listening = .not then b else b.handOver.tellExit.tellEnd

/-! ## Pauses -/

/-- What ended a pause.  `never` stands for a pause that nothing on the agenda can end. -/
inductive Wake where
  | output
  | exit
  | abort
  | timer
  | never
  deriving DecidableEq, Repr

/-- What ends a pause right now. -/
def woken (b : Bench) (w : Wait) : Option Wake :=
  if w.exit && b.wire.exit.isSome then some .exit
  else if w.output && (!b.session.pending.isEmpty || b.session.outputClosed) then some .output
  else if w.abort && b.aborted then some .abort
  else none

/-- The first item of the agenda takes place while the program is paused; the others are left. -/
def step (b : Bench) (item : Item) (rest : List Item) : Bench :=
  (((b.withAgenda rest).moveTo item.due).make item.move).tick.notePause

/-- Lets an agenda run until the pause ends: items that are due no later than the timer come
before it. -/
def runAgenda (w : Wait) (due : Option Millis) (b : Bench) : List Item → Bench × Wake
  | [] =>
    match due with
    | some moment => ((b.withAgenda []).moveTo moment, .timer)
    | none => (b.withAgenda [], .never)
  | item :: rest =>
    match due.filter (· < item.due) with
    | some moment => ((b.withAgenda (item :: rest)).moveTo moment, .timer)
    | none =>
      match (b.step item rest).woken w with
      | some wake => (b.step item rest, wake)
      | none => runAgenda w due (b.step item rest) rest

/-- Registers a pause. -/
def register (b : Bench) (w : Wait) (due : Option Millis) : Bench :=
  { b with registry := b.registry.enlist w due }

/-- An exit that is there already calls at once. -/
def react (b : Bench) : Bench := { b with registry := b.registry.hear .exit }

/-- The timer of a pause calls if it was the timer that ended the pause. -/
def expire (b : Bench) (pause : Nat) (wake : Wake) : Bench :=
  { b with
    registry := if wake = .timer then b.registry.hear (.timer pause) else b.registry }

/-- What a pause does after it was registered.  An exit that is already there ends it before anything
else is told to the session. -/
def pauseBody (b : Bench) (w : Wait) (due : Option Millis) : Bench × Wake :=
  if w.exit && b.wire.exit.isSome then (b.react, .exit)
  else
    let ready := b.tick.notePause
    match ready.woken w with
    | some wake => (ready, wake)
    | none => runAgenda w due ready ready.agenda

/-- Pauses until something ends the pause. -/
def pause (b : Bench) (w : Wait) : Bench × Wake :=
  let due := w.timer.map fun (delay : Nat) => b.clock + (delay : Millis)
  let result := (b.register w due).pauseBody w due
  (result.1.expire b.registry.nextPause result.2, result.2)

/-- Lets an agenda run until a write completes. -/
def runUntilFlushed (b : Bench) : List Item → Bench
  | [] => b.withAgenda []
  | item :: rest =>
    if item.move = .flushed then b.step item rest
    else runUntilFlushed (b.step item rest) rest

/-- Pauses until a write completes, `after` from now. -/
def awaitFlush (b : Bench) (after : Millis) : Bench :=
  let ready := (b.schedule after .flushed).tick.notePause
  ready.runUntilFlushed ready.agenda

/-- Lets the clock run for a while, with the program at rest. -/
def advance (b : Bench) (span : Millis) : Bench :=
  (runAgenda {} (some (b.clock + span)) b b.agenda).1

/-! ## What the program asks of the session and its target -/

/-- Starts the session, which from then on listens to the target. -/
def start (b : Bench) : Bench × Except Fault Unit :=
  match b.session.start with
  | .error fault => (b, .error fault)
  | .ok session =>
    let early := String.join b.wire.held
    let held := if early.isEmpty then [] else [early]
    ((b.withSession session).withWire { b.wire with listening := .soon, held }, .ok ())

/-- Consumes a unit into the transcript, and mirrors it. -/
def record (b : Bench) (unit : String) : Bench × Except Fault Unit :=
  match b.session.record unit with
  | .error fault => (b, .error fault)
  | .ok session => ((b.withSession session).note (.recorded unit), .ok ())

/-- Notes that a prompt was read. -/
def markPromptReady (b : Bench) : Bench :=
  (b.withSession b.session.markPromptReady).note .prompted

/-- Starts the timed actions of a list: those without delay at once, the others later. -/
def begin (b : Bench) (actions : List Timed) : Bench :=
  actions.foldl (fun b timed =>
    match timed.after with
    | none => b.act timed.action
    | some after => b.schedule after (.act timed.action)) b

/-- The target takes a text, and answers it. -/
def accept (b : Bench) (text : String) : Bench :=
  let b := { b with accepted := b.accepted ++ [text] }.note (.wrote text true)
  b.begin (b.target.answer b.accepted)

/-- Pauses for the time that a write takes. -/
def flush (b : Bench) : Option Millis → Bench
  | some after => b.awaitFlush after
  | none => b

/-- Waits for the end of a write that the target took. -/
def complete (b : Bench) (text : String) (course : WriteCourse) :
    Bench × Except WriteFailure Unit :=
  match course.failure with
  | none => ((b.flush course.after).note (.written text), .ok ())
  | some failure => (b.flush course.after, .error failure)

/-- Hands a text to the target, and pauses until the write is complete or has failed. -/
def write (b : Bench) (text : String) : Bench × Except WriteFailure Unit :=
  let refusal := b.target.refuses b.accepted b.attempts b.wire.exit.isSome
  let b := { b with attempts := b.attempts + 1 }
  match refusal with
  | some failure => (b.note (.wrote text false), .error failure)
  | none => (b.accept text).complete text (b.target.course (b.accepted ++ [text]))

/-- Why a line could not be sent. -/
inductive SendFailure where
  | fault (fault : Fault)
  | write (failure : WriteFailure)
  deriving DecidableEq, Repr

/-- Sends a line; this uses up the prompt, whether or not the write succeeds. -/
def sendLine (b : Bench) (line : String) : Bench × Except SendFailure Unit :=
  match b.session.claimPrompt line with
  | .error fault => (b, .error (.fault fault))
  | .ok session =>
    match (b.withSession session).write (line ++ "\n") with
    | (b, .ok ()) => (b, .ok ())
    | (b, .error failure) => (b, .error (.write failure))

/-- How the target takes a signal now. -/
def killReaction (b : Bench) (signal : String) : KillReaction :=
  if b.wire.exit.isSome then .refused else b.target.onSignal b.accepted b.signals signal

/-- Sends a signal to the target; `true` if it was delivered. -/
def signal (b : Bench) (name : String) : Bench × Bool :=
  let reaction := b.killReaction name
  let b := { b with signals := b.signals + 1 }
  match reaction with
  | .refused => (b.note (.killed name false), false)
  | .acts actions => ((b.note (.killed name true)).begin actions, true)

/-- Sends a signal to the target on behalf of the session, which then counts as killed. -/
def kill (b : Bench) (name : String) : Bench × Bool :=
  match b.signal name with
  | (b, true) => (b.withSession b.session.markKilled, true)
  | (b, false) => (b, false)

/-- Ends the session and seals its transcript. -/
def finish (b : Bench) : Bench :=
  (b.withSession b.session.finish).note .sealed

/-- Pauses until output arrives, the output is over, the run is cancelled (if the call heeds it),
or the time is up; not at all if one of these holds already. -/
def waitForOutput (b : Bench) (limit : Millis) (heeds : Bool) : Bench :=
  if !b.session.pending.isEmpty || b.session.outputClosed || (heeds && b.aborted) || limit ≤ 0 then
    b
  else (b.pause { timer := some (Timer.delay limit), output := true, abort := heeds }).1

/-- A pause that ends early, without fault, when the run is cancelled. -/
def settleDelay (b : Bench) (span : Millis) (heeds : Bool) : Bench :=
  if span ≤ 0 || (heeds && b.aborted) then b
  else (b.pause { timer := some (Timer.delay span), abort := heeds }).1

/-! ## Reading the journal -/

/-- The events so far, oldest first. -/
def history (b : Bench) : List Entry := b.journal.reverse

/-- The texts that the target accepted. -/
def writes (b : Bench) : List String := b.history.filterMap (·.event.write?)

/-- The signals that were delivered. -/
def kills (b : Bench) : List String := b.history.filterMap (·.event.kill?)

/-- The units consumed so far. -/
def units (b : Bench) : List String := b.history.filterMap (·.event.unit?)

/-- The lines printed so far. -/
def printed (b : Bench) : List String := b.history.filterMap (·.event.line?)

/-- The process signals that somebody handles, once for each handler. -/
def handledSignals (b : Bench) : List String :=
  (b.outside.interrupts.installations.filter (·.active)).flatMap (·.signals)

/-- The lines logged so far, with their moments. -/
def logLines (b : Bench) : List (Millis × LogLevel × String) :=
  b.history.filterMap fun entry =>
    match entry.event with
    | .logged level message => some (entry.moment, level, message)
    | _ => none

end Bench

end ConsoleHarness
