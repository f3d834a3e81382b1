import ConsoleHarness.Proofs.Bench.Exchange

/-! # A session and its wire

Once a session listens, it learns of an exit in the same instant in which the target leaves it on
the wire, and from its first pause on nothing is held back from it.  `Bench.Linked` says so; it
holds from the start of a session to its end, because the program never touches the wire and
everything that happens on the wire keeps it.
-/

namespace ConsoleHarness.Bench

/-- The session listens, knows of the exit that is on the wire, and has got what was held for it. -/
structure Linked (b : Bench) : Prop where
  listens : b.wire.listening ≠ .not
  exit : b.session.exit = b.wire.exit
  held : b.wire.listening = .already → b.wire.held = []

namespace Linked

variable {b c : Bench}

theorem keep (linked : Linked b) (wire : c.wire = b.wire)
    (exit : c.session.exit = b.session.exit) : Linked c where
  listens := by rw [wire]; exact linked.listens
  exit := by rw [wire, exit]; exact linked.exit
  held := by rw [wire]; exact linked.held

theorem note (linked : Linked b) (event : Event) : Linked (b.note event) := linked.keep rfl rfl

theorem log (linked : Linked b) (logs : Bool) (level : LogLevel) (message : String) :
    Linked (b.log logs level message) := by
  cases logs with
  | false => exact linked
  | true => exact linked.note _

/-! ## What happens on the wire -/

theorem deliver (linked : Linked b) (chunk : String) : Linked (b.deliver chunk) := by
  refine linked.keep (wire_deliver b chunk) ?_
  simp only [Bench.deliver, Session.enqueue]
  split
  · rfl
  · rfl

theorem push (linked : Linked b) (chunk : String) : Linked (b.push chunk) := by
  simp only [Bench.push]
  split
  · exact linked.deliver chunk
  · rename_i waiting
    split
    · exact linked
    · exact ⟨linked.listens, linked.exit, fun now => absurd now waiting⟩

theorem closeOutput (linked : Linked b) : Linked b.closeOutput := by
  simp only [Bench.closeOutput]
  split
  · exact linked
  · exact linked.keep rfl rfl

theorem endOutput (linked : Linked b) : Linked b.endOutput := by
  have ended (closing : Bool) : Linked (b.withWire { b.wire with ended := true, closing }) :=
    ⟨linked.listens, linked.exit, linked.held⟩
  simp only [Bench.endOutput]
  split
  · exact ended b.wire.closing
  · exact (ended true).push _

theorem emit (linked : Linked b) (bytes : List UInt8) : Linked (b.emit bytes) := by
  simp only [Bench.emit]
  split
  · exact linked
  · apply push
    exact ⟨linked.listens, linked.exit, linked.held⟩

theorem destroyOutput (linked : Linked b) : Linked b.destroyOutput := by
  simp only [Bench.destroyOutput]
  split
  · exact ⟨linked.listens, linked.exit, linked.held⟩
  · split
    · exact ⟨linked.listens, linked.exit, fun _ => rfl⟩
    · exact ⟨linked.listens, linked.exit, linked.held⟩

/-- The first exit goes to the wire and to the session at once. -/
theorem exitTarget (linked : Linked b) (first : b.wire.exit = none) (exit : Exit) :
    Linked (b.exitTarget exit) := by
  have unknown : b.session.exit = none := linked.exit.trans first
  rw [Bench.exitTarget, if_neg linked.listens, Bench.recordExit]
  simp only [session_leave, unknown, Option.isSome_none, Bool.false_eq_true, if_false,
    Session.recordExit]
  exact ⟨linked.listens, rfl, linked.held⟩

theorem interrupt (linked : Linked b) : Linked b.interrupt := by
  simp only [Bench.interrupt]
  split
  · exact linked.keep rfl rfl
  · exact linked

theorem act (linked : Linked b) (action : Action) : Linked (b.act action) := by
  cases action with
  | emit bytes => exact linked.emit bytes
  | finishOutput => exact linked.endOutput
  | failOutput =>
    simp only [Bench.act]
    split
    · exact linked
    · exact linked.closeOutput
  | destroyOutput => exact linked.destroyOutput
  | exit exit =>
    simp only [Bench.act]
    split
    · exact linked
    · rename_i running
      exact linked.endOutput.exitTarget (by simpa using running) exit
  | exitOnly exit =>
    simp only [Bench.act]
    split
    · exact linked
    · rename_i running
      exact linked.exitTarget (by simpa using running) exit
  | interrupt => exact linked.interrupt

theorem begin (linked : Linked b) (actions : List Timed) : Linked (b.begin actions) := by
  simp only [Bench.begin]
  induction actions generalizing b with
  | nil => exact linked
  | cons timed rest ih =>
    rw [List.foldl_cons]
    apply ih
    cases timed.after with
    | none => exact linked.act timed.action
    | some after => exact linked.keep rfl rfl

/-! ## Ticks and pauses -/

theorem handOver (linked : Linked b) : Linked b.handOver := by
  have delivered (held : List String) :
      ∀ b : Bench, Linked b → Linked (held.foldl Bench.deliver b) := by
    induction held with
    | nil => exact fun _ linked => linked
    | cons chunk rest ih => exact fun _ linked => ih _ (linked.deliver chunk)
  exact delivered _ _ ⟨by simp, linked.exit, fun _ => rfl⟩

/-- There is nothing left to tell of the exit. -/
theorem tellExit (linked : Linked b) : Linked b.tellExit := by
  simp only [Bench.tellExit]
  split
  · rename_i exit onWire
    rw [Bench.recordExit, if_pos (by rw [linked.exit, onWire]; rfl)]
    exact linked
  · exact linked

theorem tellEnd (linked : Linked b) : Linked b.tellEnd := by
  simp only [Bench.tellEnd]
  split
  · apply closeOutput
    exact ⟨linked.listens, linked.exit, linked.held⟩
  · exact linked

theorem tick (linked : Linked b) : Linked b.tick := by
  rw [Bench.tick, if_neg linked.listens]
  exact linked.handOver.tellExit.tellEnd

theorem step (linked : Linked b) (item : Item) (rest : List Item) : Linked (b.step item rest) := by
  have moved : Linked ((b.withAgenda rest).moveTo item.due) := linked.keep rfl rfl
  have made : Linked (((b.withAgenda rest).moveTo item.due).make item.move) := by
    cases item.move with
    | act action => exact moved.act action
    | flushed => exact moved
  exact made.tick.note _

theorem runAgenda (linked : Linked b) (w : Wait) (due : Option Millis) (agenda : List Item) :
    Linked (runAgenda w due b agenda).1 := by
  induction agenda generalizing b with
  | nil => cases due <;> exact linked.keep rfl rfl
  | cons item rest ih =>
    rw [Bench.runAgenda]
    cases due.filter (· < item.due) with
    | some moment => exact linked.keep rfl rfl
    | none =>
      have stepped := linked.step item rest
      cases (b.step item rest).woken w with
      | some wake => exact stepped
      | none => exact ih stepped

theorem pause (linked : Linked b) (w : Wait) : Linked (b.pause w).1 := by
  have registered (due : Option Millis) : Linked (b.register w due) := linked.keep rfl rfl
  have body (due : Option Millis) : Linked ((b.register w due).pauseBody w due).1 := by
    simp only [pauseBody]
    split
    · exact (registered due).keep rfl rfl
    · have ready : Linked (b.register w due).tick.notePause := (registered due).tick.note _
      cases (b.register w due).tick.notePause.woken w with
      | some wake => exact ready
      | none => exact ready.runAgenda w due _
  exact (body _).keep rfl rfl

theorem flush (linked : Linked b) (after : Option Millis) : Linked (b.flush after) := by
  have flushed (agenda : List Item) :
      ∀ b : Bench, Linked b → Linked (b.runUntilFlushed agenda) := by
    induction agenda with
    | nil => exact fun _ linked => linked.keep rfl rfl
    | cons item rest ih =>
      intro b linked
      rw [runUntilFlushed]
      split
      · exact linked.step item rest
      · exact ih _ (linked.step item rest)
  cases after with
  | none => exact linked
  | some after =>
    have scheduled : Linked (b.schedule after .flushed) := linked.keep rfl rfl
    exact flushed _ _ (scheduled.tick.note _)

theorem waitForOutput (linked : Linked b) (limit : Millis) (heeds : Bool) :
    Linked (b.waitForOutput limit heeds) := by
  simp only [Bench.waitForOutput]
  split
  · exact linked
  · exact linked.pause _

theorem settleDelay (linked : Linked b) (span : Millis) (heeds : Bool) :
    Linked (b.settleDelay span heeds) := by
  simp only [Bench.settleDelay]
  split
  · exact linked
  · exact linked.pause _

theorem awaitExit (linked : Linked b) (limit : Millis) (heeds : Bool) :
    Linked (b.awaitExit limit heeds).1 := by
  simp only [Bench.awaitExit]
  split
  · exact linked
  · split
    · exact linked
    · have paused := linked.pause
        { timer := some (Timer.delay (if limit ≤ 0 then 0 else limit)), exit := true,
          abort := heeds }
      split <;> rename_i same <;> rw [same] at paused <;> exact paused

/-! ## Reads, writes and signals -/

theorem record (linked : Linked b) (unit : String) : Linked (b.record unit).1 := by
  simp only [Bench.record, Session.record]
  cases b.session.transcript.append unit with
  | ok transcript => exact linked.keep rfl rfl
  | error fault => exact linked

theorem recordChunk (linked : Linked b) {chunk : String} {session : Session}
    (taken : b.session.takeChunk = some (chunk, session)) :
    Linked (b.recordChunk chunk session).1 := by
  obtain ⟨rest, _, rfl⟩ := takeChunk_eq_some taken
  apply record
  exact linked.keep rfl rfl

theorem recordMarked (linked : Linked b) {chunk : String} {session : Session}
    (taken : b.session.takeChunk = some (chunk, session)) (count : Nat) :
    Linked (b.recordMarked chunk session count).1 := by
  obtain ⟨rest, _, rfl⟩ := takeChunk_eq_some taken
  have front : Linked (b.withSession { b.session with pending := rest }) := linked.keep rfl rfl
  have recorded := front.record (String.ofList (chunk.toList.take count))
  simp only [Bench.recordMarked]
  split <;> rename_i same <;> rw [same] at recorded
  · exact recorded
  · refine recorded.keep rfl ?_
    show (Session.pushBack _ _).exit = _
    rw [Session.pushBack]
    split <;> rfl

theorem readLoop (linked : Linked b) (marker : List Char) (deadline : Millis) (heeds : Bool)
    (window : List Char) (text : String) :
    Linked (readLoop marker deadline heeds window text b).1 := by
  fun_induction Bench.readLoop marker deadline heeds window text b with
  | case1 | case6 | case7 => exact linked
  | case2 _ _ _ _ _ _ taken count _ _ _ refused =>
    have marked := linked.recordMarked taken count
    rw [refused] at marked
    exact marked
  | case3 _ _ _ _ _ _ taken count _ _ _ recorded =>
    have marked := linked.recordMarked taken count
    rw [recorded] at marked
    exact marked
  | case4 _ _ _ _ _ _ taken => exact linked.recordChunk taken
  | case5 _ _ _ _ _ _ taken _ _ ih => exact ih (linked.recordChunk taken)
  | case8 _ _ b _ _ _ _ ih => exact ih (linked.waitForOutput _ heeds)

theorem readUntil (linked : Linked b) (marker : String) (limit : Millis) (heeds : Bool) :
    Linked (b.readUntil marker limit heeds).1 := by
  have read := linked.readLoop marker.toList (b.clock + limit) heeds [] ""
  simp only [Bench.readUntil]
  split
  · exact linked
  · split <;> rename_i same <;> rw [same] at read <;> exact read

theorem drain (linked : Linked b) (limit : Millis) : Linked (b.drain limit).1 := by
  rw [Bench.drain]
  generalize b.clock + limit = deadline, "" = text
  fun_induction drainLoop deadline text b with
  | case1 _ _ _ _ taken => exact linked.recordChunk taken
  | case2 _ _ _ _ taken _ ih => exact ih (linked.recordChunk taken)
  | case3 | case4 => exact linked
  | case5 _ _ _ _ _ ih => exact ih (linked.waitForOutput _ false)

theorem write (linked : Linked b) (text : String) : Linked (b.write text).1 := by
  have accepted : Linked ({ b with attempts := b.attempts + 1 }.accept text) := by
    apply begin
    exact linked.keep rfl rfl
  simp only [Bench.write]
  split
  · exact linked.keep rfl rfl
  · simp only [complete]
    split
    · exact (accepted.flush _).note _
    · exact accepted.flush _

theorem sendLine (linked : Linked b) (line : String) : Linked (b.sendLine line).1 := by
  simp only [Bench.sendLine]
  split
  · exact linked
  · rename_i session claimed
    obtain ⟨_, _, rfl⟩ := claimPrompt_eq_ok claimed
    have front : Linked (b.withSession { b.session with promptReady := false }) :=
      linked.keep rfl rfl
    have written := front.write (line ++ "\n")
    split <;> rename_i same <;> rw [same] at written <;> exact written

theorem kill (linked : Linked b) (name : String) : Linked (b.kill name).1 := by
  have sent : Linked (b.signal name).1 := by
    simp only [Bench.signal]
    split
    · exact linked.keep rfl rfl
    · apply begin
      exact linked.keep rfl rfl
  simp only [Bench.kill]
  split <;> rename_i same <;> rw [same] at sent
  · exact sent.keep rfl rfl
  · exact sent

/-! ## The end of a session -/

theorem forceTerminate (linked : Linked b) (grace : Millis) (logs : Bool) :
    Linked (b.forceTerminate grace logs).1 := by
  have waited := (linked.kill "SIGKILL").awaitExit grace false
  simp only [Bench.forceTerminate]
  split
  · exact linked
  · split <;> rename_i same <;> rw [same] at waited
    · exact waited
    all_goals exact waited.log logs .error _

theorem dismiss (linked : Linked b) (status : ScriptStatus) (timeouts : Timeouts)
    (heeds logs : Bool) : Linked (b.dismiss status timeouts heeds logs).1 := by
  cases status with
  | completed =>
    have waited := linked.awaitExit timeouts.exit heeds
    simp only [Bench.dismiss]
    split <;> rename_i same <;> rw [same] at waited
    · exact waited
    all_goals exact (waited.log logs .warn _).forceTerminate timeouts.killGrace logs
  | aborted | interrupted =>
    exact (linked.log logs .warn _).forceTerminate timeouts.killGrace logs

/-! ## Whole scripts -/

theorem sendScripted (linked : Linked b) (script : Script) (line : String) (heeds logs : Bool) :
    Linked (b.sendScripted script line heeds logs).1 := by
  have sent := (linked.log logs .info s!"Sending '{line}' command...").sendLine line
  simp only [Bench.sendScripted]
  split <;> rename_i same <;> rw [same] at sent
  · exact sent
  · exact sent
  · exact sent.settleDelay script.settle heeds

theorem of_read (linked : Linked b) {marker : String} {limit : Millis} {heeds : Bool}
    {result : Except Fault Reading} (done : b.readUntil marker limit heeds = (c, result)) :
    Linked c := by
  have read := linked.readUntil marker limit heeds
  rw [done] at read
  exact read

theorem of_send (linked : Linked b) {script : Script} {line : String} {heeds logs : Bool}
    {result : Except Fault SendReport}
    (done : b.sendScripted script line heeds logs = (c, result)) : Linked c := by
  have sent := linked.sendScripted script line heeds logs
  rw [done] at sent
  exact sent

theorem finds {script : Script} {heeds : Bool} (linked : Linked b)
    (finds : Finds script heeds b c) : Linked c := by
  obtain ⟨done, _⟩ := finds
  exact linked.of_read done

theorem misses {script : Script} {heeds logs : Bool} {result : Bench × Except Fault ScriptOutcome}
    (linked : Linked b) (misses : Misses script heeds logs b result) : Linked result.1 := by
  cases misses with
  | missed done missing => exact (linked.of_read done).log logs .warn _
  | unread done => exact linked.of_read done

theorem advances {script : Script} {heeds logs : Bool} (linked : Linked b)
    (advances : Advances script heeds logs b c) : Linked c := by
  induction advances with
  | refl => exact linked
  | tail _ last ih =>
    cases last with
    | read found => exact ih.finds found
    | send done quiet => exact ih.of_send done

theorem halts {script : Script} {heeds logs : Bool} {result : Bench × Except Fault ScriptOutcome}
    (linked : Linked b) (halts : Halts script heeds logs b result) : Linked result.1 := by
  cases halts with
  | completed => exact linked
  | read missed => exact linked.misses missed
  | struck done loud => exact (linked.of_send done).log logs .warn _
  | unsent done => exact linked.of_send done

theorem runScript (linked : Linked b) (script : Script) (heeds logs : Bool) :
    Linked (b.runScript script heeds logs).1 := by
  have begun := linked.log logs .info "Waiting for shell..."
  rcases runScript_halts b script heeds logs with missed | ⟨c, m, found, onward, ends⟩
  · exact begun.misses missed
  · exact ((begun.finds found).advances onward).halts ends

end Linked

end ConsoleHarness.Bench
