import ConsoleHarness.Proofs.Bench.Deeds
import ConsoleHarness.Run.Basic

/-! # What happens by itself

The target, the wire, the agenda and the clock do no deed of the program: each of their operations
passes.  So does a pause, however it ends.

What happens between two registrations is made of less than that: `Bench.Happening` lists the things
that somebody could be waiting for, and leaves the registrations to what they do to them.

The session learns of an exit only from the wire, which is why `Bench.recordExit` needs to know that
the exit is there.
-/

namespace ConsoleHarness.Bench

/-! ## Parts that nobody looks at -/

theorem Alike.refl (b : Bench) : Alike b b :=
  ⟨rfl, rfl, rfl, rfl, rfl, rfl, rfl, fun _ known => known, Rat.le_refl⟩

theorem Alike.trans {b c d : Bench} (first : Alike b c) (second : Alike c d) : Alike b d where
  session := second.session.trans first.session
  journal := second.journal.trans first.journal
  aborted := second.aborted.trans first.aborted
  target := second.target.trans first.target
  attempts := second.attempts.trans first.attempts
  accepted := second.accepted.trans first.accepted
  signals := second.signals.trans first.signals
  exit := fun exit known => second.exit exit (first.exit exit known)
  later := Rat.le_trans first.later second.later

theorem Alike.withWire {b : Bench} {w : Wire}
    (exit : ∀ exit, b.wire.exit = some exit → w.exit = some exit) : Alike b (b.withWire w) :=
  ⟨rfl, rfl, rfl, rfl, rfl, rfl, rfl, exit, Rat.le_refl⟩

/-- The agenda, the registrations and the ways to cancel a run are nobody's business. -/
theorem Alike.around (b : Bench) (agenda : List Item) (registry : Registry) (route : CancelRoute)
    (outside : Outside) : Alike b { b with agenda, registry, route, outside } :=
  ⟨rfl, rfl, rfl, rfl, rfl, rfl, rfl, fun _ known => known, Rat.le_refl⟩

theorem Alike.withAgenda {b : Bench} {agenda : List Item} : Alike b (b.withAgenda agenda) :=
  .around b agenda b.registry b.route b.outside

theorem Alike.moveTo {b : Bench} {moment : Millis} : Alike b (b.moveTo moment) :=
  ⟨rfl, rfl, rfl, rfl, rfl, rfl, rfl, fun _ known => known, clock_le_moveTo b moment⟩

theorem Alike.leave {b : Bench} {exit : Exit} (first : b.wire.exit = none) :
    Alike b (b.leave exit) :=
  ⟨rfl, rfl, rfl, rfl, rfl, rfl, rfl,
    fun other known => by rw [first] at known; contradiction, Rat.le_refl⟩

theorem Alike.register {b : Bench} {w : Wait} {due : Option Millis} : Alike b (b.register w due) :=
  .around b b.agenda _ b.route b.outside

theorem Alike.react {b : Bench} : Alike b b.react := .around b b.agenda _ b.route b.outside

theorem Alike.expire {b : Bench} {pause : Nat} {wake : Wake} : Alike b (b.expire pause wake) :=
  .around b b.agenda _ b.route b.outside

theorem Alike.detach {b : Bench} : Alike b b.detach := .around b b.agenda b.registry b.route _

theorem Alike.passes {b c : Bench} (same : Alike b c) : Passes b c := .single (.alike same)

theorem passes_withWire {b : Bench} {w : Wire} (same : w.exit = b.wire.exit) :
    Passes b (b.withWire w) :=
  (Alike.withWire fun _ known => same.trans known).passes

/-! ## Happenings -/

/-- One thing that happens by itself while nothing is registered or runs out of time. -/
inductive Happening : Bench → Bench → Prop
  /-- Nothing that anybody waits for. -/
  | aside {b c} (same : Alike b c) (exit : c.wire.exit = b.wire.exit)
      (registry : c.registry = b.registry) (route : c.route = b.route)
      (outside : c.outside = b.outside) : Happening b c
  | arrive {b chunk} (filled : chunk.isEmpty = false) :
      Happening b
        ((b.withSession { b.session with pending := b.session.pending ++ [chunk] }).note
          (.arrived chunk))
  | close {b} (opened : b.session.outputClosed = false) :
      Happening b ((b.withSession { b.session with outputClosed := true }).note .closed)
  /-- The exit is there. -/
  | leave {b exit} (first : b.wire.exit = none) : Happening b (b.leave exit)
  /-- The session learns of the exit. -/
  | exit {b exit} (onWire : b.wire.exit = some exit) (unknown : b.session.exit = none) :
      Happening b ((b.withSession { b.session with exit := some exit }).note (.exited exit))
  | abort {b} (running : b.aborted = false) :
      Happening b ({ b with aborted := true, outside := b.outside.unlisten }.note .aborted)
  | pause {b} : Happening b b.notePause

/-- `c` comes from `b` by what happens by itself. -/
abbrev Happens : Bench → Bench → Prop := Relation.ReflTransGen Happening

theorem Happening.passes {b c : Bench} (happening : Happening b c) : Passes b c := by
  cases happening with
  | aside same => exact same.passes
  | arrive filled => exact .single (.arrive filled)
  | close opened => exact .single (.close opened)
  | leave first => exact (Alike.leave first).passes
  | exit onWire unknown => exact .single (.exit onWire unknown)
  | abort running =>
    -- The cancellation is one step, and that the run stops listening another.
    exact Evolves.trans (.single (.abort running))
      (Alike.around _ b.agenda _ b.route b.outside.unlisten).passes
  | pause => exact .single .pause

namespace Happens

variable {b c : Bench}

theorem single (happening : Happening b c) : Happens b c := Relation.ReflTransGen.single happening

theorem passes (happens : Happens b c) : Passes b c := by
  induction happens with
  | refl => exact .refl
  | tail _ last ih => exact ih.trans last.passes

theorem withWire {w : Wire} (same : w.exit = b.wire.exit) : Happens b (b.withWire w) :=
  .single (.aside (.withWire fun _ known => same.trans known) same rfl rfl rfl)

theorem withAgenda {agenda : List Item} : Happens b (b.withAgenda agenda) :=
  .single (.aside .withAgenda rfl rfl rfl rfl)

theorem moveTo {moment : Millis} : Happens b (b.moveTo moment) :=
  .single (.aside .moveTo rfl rfl rfl rfl)

theorem schedule {after : Millis} {move : Move} : Happens b (b.schedule after move) := withAgenda

end Happens

/-! ## The target -/

theorem happens_deliver (b : Bench) (chunk : String) : Happens b (b.deliver chunk) := by
  unfold deliver Session.enqueue
  split
  · exact .refl
  · rename_i filled
    exact .single (.arrive (by simpa using filled))

theorem happens_push (b : Bench) (chunk : String) : Happens b (b.push chunk) := by
  unfold push
  split
  · exact happens_deliver b chunk
  · split
    · exact .refl
    · exact .withWire rfl

theorem happens_closeOutput (b : Bench) : Happens b b.closeOutput := by
  unfold closeOutput
  split
  · exact .refl
  · rename_i opened
    exact .single (.close (by simpa using opened))

theorem happens_recordExit {b : Bench} {exit : Exit} (onWire : b.wire.exit = some exit) :
    Happens b (b.recordExit exit) := by
  unfold recordExit
  split
  · exact .refl
  · rename_i unknown
    -- The session takes only the first exit, so the step needs that none is known.
    have none : b.session.exit = none := by simpa using unknown
    simp only [Session.recordExit, none]
    exact .single (.exit onWire none)

theorem happens_endOutput (b : Bench) : Happens b b.endOutput := by
  unfold endOutput
  split
  · exact .withWire rfl
  · exact (Happens.withWire (by rfl)).trans (happens_push _ _)

theorem happens_exitTarget {b : Bench} {exit : Exit} (first : b.wire.exit = none) :
    Happens b (b.exitTarget exit) := by
  have left : Happens b (b.leave exit) := .single (.leave first)
  unfold exitTarget
  split
  · exact left
  · exact left.trans (happens_recordExit rfl)

theorem happens_emit (b : Bench) (bytes : List UInt8) : Happens b (b.emit bytes) := by
  unfold emit
  split
  · exact .refl
  · exact (Happens.withWire (by rfl)).trans (happens_push _ _)

theorem happens_destroyOutput (b : Bench) : Happens b b.destroyOutput := by
  unfold destroyOutput
  split
  · exact .withWire rfl
  · split
    · exact .withWire rfl
    · exact .withWire rfl

theorem happens_interrupt (b : Bench) : Happens b b.interrupt := by
  unfold interrupt
  split
  · rename_i due
    simp only [Bool.and_eq_true, Bool.not_eq_true'] at due
    exact .single (.abort due.2)
  · exact .refl

/-- Output puts no exit on the wire. -/
@[simp] theorem exit_push (b : Bench) (chunk : String) :
    (b.push chunk).wire.exit = b.wire.exit := by
  unfold push
  split
  · simp
  · split <;> rfl

/-- Neither does its end. -/
@[simp] theorem exit_endOutput (b : Bench) : b.endOutput.wire.exit = b.wire.exit := by
  unfold endOutput
  split
  · rfl
  · simp

theorem happens_act (b : Bench) (action : Action) : Happens b (b.act action) := by
  cases action with
  | emit bytes => exact happens_emit b bytes
  | finishOutput => exact happens_endOutput b
  | failOutput =>
    simp only [act]
    split
    · exact .refl
    · exact happens_closeOutput b
  | destroyOutput => exact happens_destroyOutput b
  | exit exit =>
    simp only [act]
    split
    · exact .refl
    · rename_i running
      -- The output ends first; that leaves the wire without an exit.
      have first : b.endOutput.wire.exit = none := by simpa using running
      exact (happens_endOutput b).trans (happens_exitTarget first)
  | exitOnly exit =>
    simp only [act]
    split
    · exact .refl
    · rename_i running
      exact happens_exitTarget (by simpa using running)
  | interrupt => exact happens_interrupt b

theorem happens_make (b : Bench) (move : Move) : Happens b (b.make move) := by
  cases move with
  | act action => exact happens_act b action
  | flushed => exact .refl

theorem happens_begin (b : Bench) (actions : List Timed) : Happens b (b.begin actions) := by
  unfold begin
  induction actions generalizing b with
  | nil => exact .refl
  | cons timed rest ih =>
    rw [List.foldl_cons]
    refine Relation.ReflTransGen.trans ?_ (ih _)
    split
    · exact happens_act b timed.action
    · exact Happens.schedule

/-! ## Ticks -/

theorem happens_foldl_deliver (held : List String) (b : Bench) :
    Happens b (held.foldl deliver b) := by
  induction held generalizing b with
  | nil => exact .refl
  | cons chunk rest ih => exact (happens_deliver b chunk).trans (ih _)

theorem happens_handOver (b : Bench) : Happens b b.handOver :=
  (Happens.withWire (by rfl)).trans (happens_foldl_deliver _ _)

theorem happens_tellExit (b : Bench) : Happens b b.tellExit := by
  unfold tellExit
  split
  · rename_i onWire
    exact happens_recordExit onWire
  · exact .refl

theorem happens_tellEnd (b : Bench) : Happens b b.tellEnd := by
  unfold tellEnd
  split
  · exact (Happens.withWire (by rfl)).trans (happens_closeOutput _)
  · exact .refl

theorem happens_tick (b : Bench) : Happens b b.tick := by
  unfold tick
  split
  · exact .refl
  · exact ((happens_handOver b).trans (happens_tellExit _)).trans (happens_tellEnd _)

theorem happens_notePause (b : Bench) : Happens b b.notePause := .single .pause

theorem happens_rest (b : Bench) : Happens b b.rest :=
  ((happens_notePause b).trans (happens_tick _)).trans (happens_notePause _)

/-! ## The agenda -/

theorem happens_step (b : Bench) (item : Item) (rest : List Item) :
    Happens b (b.step item rest) := by
  have moved : Happens b ((b.withAgenda rest).moveTo item.due) :=
    Happens.withAgenda.trans Happens.moveTo
  exact ((moved.trans (happens_make _ _)).trans (happens_tick _)).trans (happens_notePause _)

theorem happens_runAgenda (w : Wait) (due : Option Millis) (b : Bench) (agenda : List Item) :
    Happens b (runAgenda w due b agenda).1 := by
  induction agenda generalizing b with
  | nil =>
    unfold runAgenda
    split
    · exact Happens.withAgenda.trans Happens.moveTo
    · exact .withAgenda
  | cons item rest ih =>
    unfold runAgenda
    split
    · exact Happens.withAgenda.trans Happens.moveTo
    · split
      · exact happens_step b item rest
      · exact (happens_step b item rest).trans (ih _)

theorem happens_runUntilFlushed (b : Bench) (agenda : List Item) :
    Happens b (b.runUntilFlushed agenda) := by
  induction agenda generalizing b with
  | nil => exact .withAgenda
  | cons item rest ih =>
    unfold runUntilFlushed
    split
    · exact happens_step b item rest
    · exact (happens_step b item rest).trans (ih _)

theorem happens_flush (b : Bench) (after : Option Millis) : Happens b (b.flush after) := by
  cases after with
  | none => exact .refl
  | some after =>
    have ready : Happens b (b.schedule after .flushed).tick.notePause :=
      (Happens.schedule.trans (happens_tick _)).trans (happens_notePause _)
    exact ready.trans (happens_runUntilFlushed _ _)

theorem happens_advance (b : Bench) (span : Millis) : Happens b (b.advance span) :=
  happens_runAgenda _ _ _ _

/-! ## What passes -/

theorem passes_make (b : Bench) (move : Move) : Passes b (b.make move) :=
  (happens_make b move).passes

theorem passes_begin (b : Bench) (actions : List Timed) : Passes b (b.begin actions) :=
  (happens_begin b actions).passes

theorem passes_tick (b : Bench) : Passes b b.tick := (happens_tick b).passes

theorem passes_notePause (b : Bench) : Passes b b.notePause := .single .pause

theorem passes_rest (b : Bench) : Passes b b.rest := (happens_rest b).passes

theorem passes_step (b : Bench) (item : Item) (rest : List Item) : Passes b (b.step item rest) :=
  (happens_step b item rest).passes

theorem passes_flush (b : Bench) (after : Option Millis) : Passes b (b.flush after) :=
  (happens_flush b after).passes

theorem passes_advance (b : Bench) (span : Millis) : Passes b (b.advance span) :=
  (happens_advance b span).passes

theorem passes_pauseBody (b : Bench) (w : Wait) (due : Option Millis) :
    Passes b (b.pauseBody w due).1 := by
  have ready : Passes b b.tick.notePause := (passes_tick b).trans (passes_notePause _)
  unfold pauseBody
  split
  · exact Alike.react.passes
  · dsimp only
    split
    · exact ready
    · exact ready.trans (happens_runAgenda _ _ _ _).passes

theorem passes_pause (b : Bench) (w : Wait) : Passes b (b.pause w).1 := by
  unfold pause
  exact (Alike.register.passes.trans (passes_pauseBody _ _ _)).trans Alike.expire.passes

theorem passes_waitForOutput (b : Bench) (limit : Millis) (heeds : Bool) :
    Passes b (b.waitForOutput limit heeds) := by
  unfold waitForOutput
  split
  · exact .refl
  · exact passes_pause _ _

theorem passes_settleDelay (b : Bench) (span : Millis) (heeds : Bool) :
    Passes b (b.settleDelay span heeds) := by
  unfold settleDelay
  split
  · exact .refl
  · exact passes_pause _ _

theorem passes_awaitExit (b : Bench) (limit : Millis) (heeds : Bool) :
    Passes b (b.awaitExit limit heeds).1 := by
  unfold awaitExit
  split
  · exact .refl
  · split
    · exact .refl
    · have paused := passes_pause b
        { timer := some (Timer.delay (if limit ≤ 0 then 0 else limit)), exit := true,
          abort := heeds }
      dsimp only
      split <;> rename_i same <;> rw [same] at paused <;> exact paused

/-! ## Launch and cancellation -/

/-- A launch only fills the agenda. -/
theorem exists_launch (target : Target) : ∃ agenda, launch target = { target, agenda } := by
  have scheduled : ∀ (events : List Timed) (b : Bench), ∃ agenda,
      events.foldl (fun b timed => b.schedule (timed.after.getD 0) (.act timed.action)) b =
        b.withAgenda agenda := by
    intro events
    induction events with
    | nil => exact fun b => ⟨b.agenda, rfl⟩
    | cons timed rest ih => exact fun b => ih (b.schedule (timed.after.getD 0) (.act timed.action))
  exact scheduled target.events { target }

theorem alike_launch (target : Target) : Alike { target } (launch target) := by
  obtain ⟨agenda, launched⟩ := exists_launch target
  rw [launched]
  exact Alike.withAgenda

theorem wire_launch (target : Target) : (launch target).wire = {} := by
  obtain ⟨agenda, launched⟩ := exists_launch target
  rw [launched]

theorem passes_attach {b : Bench} (running : b.aborted = false) (cancellation : Cancellation) :
    Passes b (b.attach cancellation) := by
  have same := Alike.around b b.agenda b.registry
  cases cancellation with
  | given aborted =>
    cases aborted with
    | true => exact (same .forwarded b.outside).passes.trans (.single (.abort running))
    | false => exact (same _ _).passes
  | processSignals name => exact (same _ _).passes

end ConsoleHarness.Bench
