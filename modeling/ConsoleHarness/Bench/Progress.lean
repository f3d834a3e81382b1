import ConsoleHarness.Bench.Basic

/-! # Why pauses come to an end

A loop that consumes output pauses again and again.  It ends because every pause makes progress:
either the bench gets lighter (`Bench.weight` counts what is still to come, agenda items more
heavily than held chunks, and those more heavily than pending ones), or the timer of the pause ran
out and the clock went on by at least one millisecond.
-/

namespace ConsoleHarness.Bench

/-- What is still to come, weighted by how far it is from being consumed. -/
def weight (b : Bench) : Nat :=
  4 * b.agenda.length + 2 * b.wire.held.length + b.session.pending.length + b.wire.closing.toNat

/-! ## Parts of the bench -/

@[simp] theorem agenda_note (b : Bench) (e : Event) : (b.note e).agenda = b.agenda := rfl
@[simp] theorem clock_note (b : Bench) (e : Event) : (b.note e).clock = b.clock := rfl
@[simp] theorem wire_note (b : Bench) (e : Event) : (b.note e).wire = b.wire := rfl
@[simp] theorem session_note (b : Bench) (e : Event) : (b.note e).session = b.session := rfl
@[simp] theorem aborted_note (b : Bench) (e : Event) : (b.note e).aborted = b.aborted := rfl
@[simp] theorem weight_note (b : Bench) (e : Event) : (b.note e).weight = b.weight := rfl

@[simp] theorem agenda_notePause (b : Bench) : b.notePause.agenda = b.agenda := rfl
@[simp] theorem weight_notePause (b : Bench) : b.notePause.weight = b.weight := rfl

@[simp] theorem agenda_withWire (b : Bench) (w : Wire) : (b.withWire w).agenda = b.agenda := rfl
@[simp] theorem clock_withWire (b : Bench) (w : Wire) : (b.withWire w).clock = b.clock := rfl
@[simp] theorem wire_withWire (b : Bench) (w : Wire) : (b.withWire w).wire = w := rfl
@[simp] theorem session_withWire (b : Bench) (w : Wire) :
    (b.withWire w).session = b.session := rfl

@[simp] theorem agenda_withSession (b : Bench) (s : Session) :
    (b.withSession s).agenda = b.agenda := rfl
@[simp] theorem clock_withSession (b : Bench) (s : Session) :
    (b.withSession s).clock = b.clock := rfl
@[simp] theorem wire_withSession (b : Bench) (s : Session) :
    (b.withSession s).wire = b.wire := rfl
@[simp] theorem session_withSession (b : Bench) (s : Session) :
    (b.withSession s).session = s := rfl

@[simp] theorem agenda_withAgenda (b : Bench) (a : List Item) : (b.withAgenda a).agenda = a := rfl
@[simp] theorem clock_withAgenda (b : Bench) (a : List Item) :
    (b.withAgenda a).clock = b.clock := rfl
@[simp] theorem wire_withAgenda (b : Bench) (a : List Item) :
    (b.withAgenda a).wire = b.wire := rfl
@[simp] theorem session_withAgenda (b : Bench) (a : List Item) :
    (b.withAgenda a).session = b.session := rfl

@[simp] theorem agenda_moveTo (b : Bench) (m : Millis) : (b.moveTo m).agenda = b.agenda := rfl
@[simp] theorem wire_moveTo (b : Bench) (m : Millis) : (b.moveTo m).wire = b.wire := rfl
@[simp] theorem session_moveTo (b : Bench) (m : Millis) : (b.moveTo m).session = b.session := rfl

@[simp] theorem weight_withWire (b : Bench) (w : Wire) (h : w.held = b.wire.held)
    (same : w.closing = b.wire.closing) : (b.withWire w).weight = b.weight := by
  simp [weight, h, same]

@[simp] theorem weight_withSession (b : Bench) (s : Session) (h : s.pending = b.session.pending) :
    (b.withSession s).weight = b.weight := by
  simp [weight, h]

@[simp] theorem weight_moveTo (b : Bench) (m : Millis) : (b.moveTo m).weight = b.weight := rfl

@[simp] theorem agenda_leave (b : Bench) (e : Exit) : (b.leave e).agenda = b.agenda := rfl
@[simp] theorem clock_leave (b : Bench) (e : Exit) : (b.leave e).clock = b.clock := rfl
@[simp] theorem session_leave (b : Bench) (e : Exit) : (b.leave e).session = b.session := rfl
@[simp] theorem wire_leave (b : Bench) (e : Exit) :
    (b.leave e).wire = { b.wire with exit := some e } := rfl
@[simp] theorem weight_leave (b : Bench) (e : Exit) : (b.leave e).weight = b.weight := rfl

theorem le_clock_moveTo (b : Bench) (m : Millis) : m ≤ (b.moveTo m).clock := by
  simp only [moveTo]
  split
  · exact Rat.le_refl
  · rename_i h; exact Rat.le_total.resolve_left h

theorem clock_le_moveTo (b : Bench) (m : Millis) : b.clock ≤ (b.moveTo m).clock := by
  simp only [moveTo]
  split
  · assumption
  · exact Rat.le_refl

/-! ## What a move adds

Nothing that the target does touches the agenda or the clock, and it adds at most one chunk. -/

@[simp] theorem agenda_deliver (b : Bench) (c : String) : (b.deliver c).agenda = b.agenda := by
  unfold deliver; split <;> simp

@[simp] theorem clock_deliver (b : Bench) (c : String) : (b.deliver c).clock = b.clock := by
  unfold deliver; split <;> simp

theorem weight_deliver_le (b : Bench) (c : String) : (b.deliver c).weight ≤ b.weight + 1 := by
  unfold deliver
  split
  · omega
  · simp only [weight, Session.enqueue, session_note, session_withSession, wire_note,
      wire_withSession, agenda_note, agenda_withSession]
    split
    · omega
    · -- The chunk that arrives is the only thing that weighs more than before.
      simp
      omega

@[simp] theorem agenda_push (b : Bench) (c : String) : (b.push c).agenda = b.agenda := by
  unfold push; split
  · simp
  · split <;> simp

@[simp] theorem clock_push (b : Bench) (c : String) : (b.push c).clock = b.clock := by
  unfold push; split
  · simp
  · split <;> simp

theorem weight_push_le (b : Bench) (c : String) : (b.push c).weight ≤ b.weight + 2 := by
  unfold push
  split
  · exact Nat.le_trans (weight_deliver_le b c) (by omega)
  · split
    · omega
    · simp [weight]; omega

@[simp] theorem agenda_closeOutput (b : Bench) : b.closeOutput.agenda = b.agenda := by
  unfold closeOutput; split <;> simp

@[simp] theorem clock_closeOutput (b : Bench) : b.closeOutput.clock = b.clock := by
  unfold closeOutput; split <;> simp

@[simp] theorem weight_closeOutput (b : Bench) : b.closeOutput.weight = b.weight := by
  unfold closeOutput; split <;> simp [Session.closeOutput]

@[simp] theorem agenda_recordExit (b : Bench) (e : Exit) :
    (b.recordExit e).agenda = b.agenda := by
  unfold recordExit; split <;> simp

@[simp] theorem clock_recordExit (b : Bench) (e : Exit) : (b.recordExit e).clock = b.clock := by
  unfold recordExit; split <;> simp

@[simp] theorem wire_recordExit (b : Bench) (e : Exit) : (b.recordExit e).wire = b.wire := by
  unfold recordExit; split <;> simp

@[simp] theorem weight_recordExit (b : Bench) (e : Exit) :
    (b.recordExit e).weight = b.weight := by
  have same : (b.session.recordExit e).pending = b.session.pending := by
    unfold Session.recordExit; split <;> rfl
  unfold recordExit
  split
  · rfl
  · simp [same]

@[simp] theorem agenda_endOutput (b : Bench) : b.endOutput.agenda = b.agenda := by
  unfold endOutput; split <;> simp

@[simp] theorem clock_endOutput (b : Bench) : b.endOutput.clock = b.clock := by
  unfold endOutput; split <;> simp

theorem weight_endOutput_le (b : Bench) : b.endOutput.weight ≤ b.weight + 3 := by
  unfold endOutput
  split
  · simp
  · exact Nat.le_trans (weight_push_le _ _) (by simp [weight])

@[simp] theorem agenda_exitTarget (b : Bench) (e : Exit) :
    (b.exitTarget e).agenda = b.agenda := by
  unfold exitTarget; split <;> simp

@[simp] theorem clock_exitTarget (b : Bench) (e : Exit) : (b.exitTarget e).clock = b.clock := by
  unfold exitTarget; split <;> simp

@[simp] theorem weight_exitTarget (b : Bench) (e : Exit) :
    (b.exitTarget e).weight = b.weight := by
  unfold exitTarget; split <;> simp

@[simp] theorem agenda_emit (b : Bench) (bytes : List UInt8) :
    (b.emit bytes).agenda = b.agenda := by
  unfold emit; split <;> simp

@[simp] theorem clock_emit (b : Bench) (bytes : List UInt8) :
    (b.emit bytes).clock = b.clock := by
  unfold emit; split <;> simp

theorem weight_emit_le (b : Bench) (bytes : List UInt8) :
    (b.emit bytes).weight ≤ b.weight + 2 := by
  unfold emit
  split
  · omega
  · exact Nat.le_trans (weight_push_le _ _) (by simp)

@[simp] theorem agenda_destroyOutput (b : Bench) : b.destroyOutput.agenda = b.agenda := by
  unfold destroyOutput; repeat' split <;> simp

@[simp] theorem clock_destroyOutput (b : Bench) : b.destroyOutput.clock = b.clock := by
  unfold destroyOutput; repeat' split <;> simp

theorem weight_destroyOutput_le (b : Bench) : b.destroyOutput.weight ≤ b.weight + 1 := by
  unfold destroyOutput
  split
  · simp
  · split
    · simp [weight]; omega
    · simp [weight]

@[simp] theorem agenda_interrupt (b : Bench) : b.interrupt.agenda = b.agenda := by
  unfold interrupt; split <;> rfl

@[simp] theorem clock_interrupt (b : Bench) : b.interrupt.clock = b.clock := by
  unfold interrupt; split <;> rfl

@[simp] theorem weight_interrupt (b : Bench) : b.interrupt.weight = b.weight := by
  unfold interrupt; split <;> rfl

@[simp] theorem agenda_act (b : Bench) (a : Action) : (b.act a).agenda = b.agenda := by
  cases a <;> simp only [act] <;> try split
  all_goals simp

@[simp] theorem clock_act (b : Bench) (a : Action) : (b.act a).clock = b.clock := by
  cases a <;> simp only [act] <;> try split
  all_goals simp

theorem weight_act_le (b : Bench) (a : Action) : (b.act a).weight ≤ b.weight + 3 := by
  cases a with
  | emit bytes => exact Nat.le_trans (weight_emit_le b bytes) (by omega)
  | finishOutput => exact weight_endOutput_le b
  | failOutput => simp only [act]; split <;> simp
  | destroyOutput => exact Nat.le_trans (weight_destroyOutput_le b) (by omega)
  | exit e =>
    simp only [act]
    split
    · omega
    · simpa using weight_endOutput_le b
  | exitOnly e => simp only [act]; split <;> simp
  | interrupt => simp [act]

@[simp] theorem agenda_make (b : Bench) (m : Move) : (b.make m).agenda = b.agenda := by
  cases m <;> simp [make]

@[simp] theorem clock_make (b : Bench) (m : Move) : (b.make m).clock = b.clock := by
  cases m <;> simp [make]

theorem weight_make_le (b : Bench) (m : Move) : (b.make m).weight ≤ b.weight + 3 := by
  cases m with
  | act a => exact weight_act_le b a
  | flushed => exact Nat.le_add_right _ _

/-! ## Ticks -/

theorem foldl_deliver (held : List String) (b : Bench) :
    (held.foldl deliver b).agenda = b.agenda ∧ (held.foldl deliver b).clock = b.clock ∧
      (held.foldl deliver b).weight ≤ b.weight + held.length := by
  induction held generalizing b with
  | nil => simp
  | cons c rest ih =>
    obtain ⟨agenda, clock, weight⟩ := ih (b.deliver c)
    have first := weight_deliver_le b c
    refine ⟨by simp [agenda], by simp [clock], ?_⟩
    simp only [List.foldl_cons, List.length_cons]
    omega

@[simp] theorem agenda_handOver (b : Bench) : b.handOver.agenda = b.agenda :=
  (foldl_deliver _ _).1

@[simp] theorem clock_handOver (b : Bench) : b.handOver.clock = b.clock :=
  (foldl_deliver _ _).2.1

theorem weight_handOver_le (b : Bench) : b.handOver.weight ≤ b.weight := by
  refine Nat.le_trans (foldl_deliver _ _).2.2 ?_
  simp [weight]
  omega

@[simp] theorem agenda_tellExit (b : Bench) : b.tellExit.agenda = b.agenda := by
  unfold tellExit; split <;> simp

@[simp] theorem clock_tellExit (b : Bench) : b.tellExit.clock = b.clock := by
  unfold tellExit; split <;> simp

@[simp] theorem weight_tellExit (b : Bench) : b.tellExit.weight = b.weight := by
  unfold tellExit; split <;> simp

@[simp] theorem agenda_tellEnd (b : Bench) : b.tellEnd.agenda = b.agenda := by
  unfold tellEnd; split <;> simp

@[simp] theorem clock_tellEnd (b : Bench) : b.tellEnd.clock = b.clock := by
  unfold tellEnd; split <;> simp

/-- Telling the end takes it off the wire. -/
theorem weight_tellEnd (b : Bench) :
    b.tellEnd.weight + b.wire.closing.toNat = b.weight := by
  unfold tellEnd
  split
  · rename_i closing
    rw [weight_closeOutput]
    simp [weight, closing]
  · rename_i telling
    simp [telling]

@[simp] theorem agenda_tick (b : Bench) : b.tick.agenda = b.agenda := by
  unfold tick; split <;> simp

@[simp] theorem clock_tick (b : Bench) : b.tick.clock = b.clock := by
  unfold tick; split <;> simp

/-- Handing over what was held makes the bench no heavier. -/
theorem weight_tick_le (b : Bench) : b.tick.weight ≤ b.weight := by
  unfold tick
  split
  · omega
  · have told := weight_tellEnd b.handOver.tellExit
    have handed := weight_handOver_le b
    simp only [weight_tellExit] at told
    omega

/-! ### What a tick brings to light -/

@[simp] theorem aborted_deliver (b : Bench) (c : String) : (b.deliver c).aborted = b.aborted := by
  unfold deliver; split <;> rfl

@[simp] theorem aborted_closeOutput (b : Bench) : b.closeOutput.aborted = b.aborted := by
  unfold closeOutput; split <;> rfl

@[simp] theorem aborted_recordExit (b : Bench) (e : Exit) :
    (b.recordExit e).aborted = b.aborted := by
  unfold recordExit; split <;> rfl

theorem aborted_foldl_deliver (held : List String) (b : Bench) :
    (held.foldl deliver b).aborted = b.aborted := by
  induction held generalizing b with
  | nil => rfl
  | cons c rest ih => simp [ih]

/-- A tick cancels nothing. -/
@[simp] theorem aborted_tick (b : Bench) : b.tick.aborted = b.aborted := by
  have handed : b.handOver.aborted = b.aborted := aborted_foldl_deliver _ _
  have exited : b.handOver.tellExit.aborted = b.aborted := by
    unfold tellExit; split <;> simp [handed]
  unfold tick
  split
  · rfl
  · unfold tellEnd
    split
    · rw [aborted_closeOutput]; exact exited
    · exact exited

@[simp] theorem wire_deliver (b : Bench) (c : String) : (b.deliver c).wire = b.wire := by
  unfold deliver; split <;> simp

@[simp] theorem outputClosed_deliver (b : Bench) (c : String) :
    (b.deliver c).session.outputClosed = b.session.outputClosed := by
  unfold deliver Session.enqueue; split <;> simp_all

theorem foldl_deliver_closing (held : List String) (b : Bench) :
    (held.foldl deliver b).wire = b.wire ∧
      (held.foldl deliver b).session.outputClosed = b.session.outputClosed := by
  induction held generalizing b with
  | nil => simp
  | cons c rest ih => simpa using ih (b.deliver c)

@[simp] theorem outputClosed_recordExit (b : Bench) (e : Exit) :
    (b.recordExit e).session.outputClosed = b.session.outputClosed := by
  unfold recordExit Session.recordExit
  split
  · rfl
  · split <;> simp_all

/-- A tick that hands over nothing and tells no end leaves the session without output. -/
theorem tick_quiet {b : Bench} (held : b.wire.held = []) (closing : b.wire.closing = false) :
    b.tick.session.pending = b.session.pending ∧
      b.tick.session.outputClosed = b.session.outputClosed := by
  have handed : b.handOver = b.withWire { b.wire with listening := .already, held := [] } := by
    simp [handOver, held]
  have pendingExit : ∀ (c : Bench), c.tellExit.session.pending = c.session.pending := by
    intro c
    unfold tellExit recordExit Session.recordExit
    split
    · split
      · rfl
      · split <;> simp_all
    · rfl
  have closedExit : ∀ (c : Bench),
      c.tellExit.session.outputClosed = c.session.outputClosed := by
    intro c; unfold tellExit; split <;> simp
  have wireExit : ∀ (c : Bench), c.tellExit.wire = c.wire := by
    intro c; unfold tellExit; split <;> simp
  unfold tick
  split
  · exact ⟨rfl, rfl⟩
  · have quiet : b.handOver.tellExit.wire.closing = false := by
      rw [wireExit, handed]; exact closing
    unfold tellEnd
    rw [if_neg (by simp [quiet])]
    rw [pendingExit, closedExit, handed]
    exact ⟨rfl, rfl⟩

/-- A tick after which there is output, or its end, where there was none, makes the bench
lighter. -/
theorem weight_tick_lt {b : Bench} (pending : b.session.pending = [])
    (opened : b.session.outputClosed = false)
    (news : b.tick.session.pending ≠ [] ∨ b.tick.session.outputClosed = true) :
    b.tick.weight < b.weight := by
  by_cases held : b.wire.held = []
  · by_cases closing : b.wire.closing = false
    · have quiet := tick_quiet held closing
      rw [quiet.1, quiet.2, pending, opened] at news
      simp at news
    · have closing : b.wire.closing = true := by simpa using closing
      unfold tick at news ⊢
      split at news
      · simp [pending, opened] at news
      · rename_i listening
        rw [if_neg listening]
        have told := weight_tellEnd b.handOver.tellExit
        have handed := weight_handOver_le b
        have same : b.handOver.tellExit.wire.closing = true := by
          have first : b.handOver.wire.closing = true := by
            simp only [handOver, (foldl_deliver_closing _ _).1]; exact closing
          unfold tellExit; split <;> simp [first]
        rw [same] at told
        simp only [weight_tellExit, Bool.toNat_true] at told
        omega
  · unfold tick at news ⊢
    split at news
    · simp [pending, opened] at news
    · rename_i listening
      rw [if_neg listening]
      have told := weight_tellEnd b.handOver.tellExit
      have handed := (foldl_deliver b.wire.held
        (b.withWire { b.wire with listening := .already, held := [] })).2.2
      have longer : 0 < b.wire.held.length := List.length_pos_iff.mpr held
      have lighter : b.handOver.weight < b.weight := by
        simp only [handOver]
        simp only [weight, agenda_withWire, wire_withWire, session_withWire, List.length_nil]
          at handed ⊢
        omega
      simp only [weight_tellExit] at told
      omega

/-! ## Pauses -/

@[simp] theorem weight_expire (b : Bench) (n : Nat) (w : Wake) :
    (b.expire n w).weight = b.weight := rfl
@[simp] theorem clock_expire (b : Bench) (n : Nat) (w : Wake) :
    (b.expire n w).clock = b.clock := rfl

@[simp] theorem weight_register (b : Bench) (w : Wait) (due : Option Millis) :
    (b.register w due).weight = b.weight := rfl
@[simp] theorem clock_register (b : Bench) (w : Wait) (due : Option Millis) :
    (b.register w due).clock = b.clock := rfl
@[simp] theorem wire_register (b : Bench) (w : Wait) (due : Option Millis) :
    (b.register w due).wire = b.wire := rfl

@[simp] theorem agenda_step (b : Bench) (item : Item) (rest : List Item) :
    (b.step item rest).agenda = rest := by
  simp [step]

/-- Each item that takes place makes the bench lighter. -/
theorem weight_step_lt (b : Bench) (item : Item) (rest : List Item)
    (h : b.agenda = item :: rest) : (b.step item rest).weight < b.weight := by
  have ticked := weight_tick_le (((b.withAgenda rest).moveTo item.due).make item.move)
  have made := weight_make_le ((b.withAgenda rest).moveTo item.due) item.move
  have shorter : ((b.withAgenda rest).moveTo item.due).weight + 4 = b.weight := by
    simp [weight, h]; omega
  unfold step
  rw [weight_notePause]
  omega

/-- A run of the agenda either uses up an item, or lasts to the timer. -/
theorem runAgenda_progress (w : Wait) (due : Millis) (b : Bench) (agenda : List Item)
    (h : b.agenda = agenda) :
    (runAgenda w (some due) b agenda).1.weight < b.weight ∨
      ((runAgenda w (some due) b agenda).1.weight ≤ b.weight ∧
        due ≤ (runAgenda w (some due) b agenda).1.clock) := by
  induction agenda generalizing b with
  | nil => exact .inr ⟨by simp [runAgenda, weight, h], le_clock_moveTo _ _⟩
  | cons item rest ih =>
    have lighter := weight_step_lt b item rest h
    unfold runAgenda
    split
    · rename_i moment timed
      have same : due = moment := by simpa using (Option.filter_eq_some_iff.mp timed).1
      subst same
      exact .inr ⟨by simp [weight, h], le_clock_moveTo _ _⟩
    · split
      · exact .inl lighter
      · rcases ih (b.step item rest) (by simp) with less | ⟨le, late⟩
        · left; omega
        · left; omega

/-- A pause for output that is still to come makes progress. -/
theorem waitForOutput_progress (b : Bench) (limit : Millis) (heeds : Bool)
    (pending : b.session.pending = []) (opened : b.session.outputClosed = false)
    (unheeded : (heeds && b.aborted) = false) (left : ¬ limit ≤ 0) :
    (b.waitForOutput limit heeds).weight < b.weight ∨
      ((b.waitForOutput limit heeds).weight ≤ b.weight ∧
        b.clock + (Timer.delay limit : Millis) ≤ (b.waitForOutput limit heeds).clock) := by
  unfold waitForOutput
  rw [if_neg (by simp [pending, opened, unheeded, left])]
  simp only [pause, weight_expire, clock_expire, Option.map_some]
  generalize hw : ({ timer := some (Timer.delay limit), output := true, abort := heeds } : Wait) = w
  generalize hd : b.clock + (Timer.delay limit : Millis) = due
  generalize hr : b.register w (some due) = r
  have weights : r.weight = b.weight := by rw [← hr]; rfl
  have rPending : r.session.pending = [] := by rw [← hr]; exact pending
  have rOpened : r.session.outputClosed = false := by rw [← hr]; exact opened
  have rAborted : r.aborted = b.aborted := by rw [← hr]; rfl
  have exits : w.exit = false := by rw [← hw]
  unfold pauseBody
  rw [if_neg (by simp [exits])]
  dsimp only
  split
  · rename_i wake woke
    left
    rw [weight_notePause, ← weights]
    apply weight_tick_lt rPending rOpened
    simp only [woken, notePause, session_note, exits, Bool.false_and, Bool.false_eq_true,
      if_false] at woke
    by_cases news : r.tick.session.pending ≠ [] ∨ r.tick.session.outputClosed = true
    · exact news
    · have noAbort : (w.abort && r.tick.aborted) = false := by
        rw [aborted_tick, rAborted, ← hw]; exact unheeded
      simp only [not_or, ne_eq, Decidable.not_not, Bool.not_eq_true] at news
      simp only [aborted_note, noAbort, news.1, news.2] at woke
      simp at woke
  · have ticked := weight_tick_le r
    rcases runAgenda_progress w due r.tick.notePause _ rfl with less | ⟨le, late⟩
    · left; simp only [weight_notePause] at less ⊢; omega
    · right; rw [weight_notePause] at le; exact ⟨by omega, late⟩

end ConsoleHarness.Bench
