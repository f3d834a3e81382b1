import ConsoleHarness.Proofs.Bench.Fidelity
import ConsoleHarness.Proofs.Bench.OneWay
import ConsoleHarness.Proofs.Text.Decoder

/-! # The output of a target as one stream of bytes

`Target.output?` is what a target puts out by itself until its output ends, however it is cut into
chunks.  As long as the program does nothing but read, what has arrived, what the decoder holds and
what is still to come stand together for the text of these bytes (`Bench.Coming`); at the end
nothing is held and nothing is to come, so a session that reads its output to the end has the text
of the whole stream in its transcript.
-/

namespace ConsoleHarness

/-! ## What a target puts out -/

/-- The bytes put out by a list of moves up to the end of the output; none if they do not end it, or
if they break it off.  An exit counts only while the target is not `gone`. -/
def outputIn (gone : Bool) : List Item → Option (List UInt8)
  | [] => none
  | item :: rest =>
    match item.move with
    | .act (.emit bytes) => (outputIn gone rest).map (bytes ++ ·)
    | .act .finishOutput => some []
    | .act (.exit _) => if gone then outputIn gone rest else some []
    | .act (.exitOnly _) => outputIn true rest
    | .act .failOutput | .act .destroyOutput => none
    | .act .interrupt | .flushed => outputIn gone rest

/-- The bytes that a target puts out by itself, up to the end of its output. -/
def Target.output? (target : Target) : Option (List UInt8) :=
  outputIn false (Bench.launch target).agenda

/-- Whether a call only reads output, or lets time pass. -/
def Call.isReading : Call → Bool
  | .read .. | .drain _ | .waitForOutput _ | .advance _ => true
  | _ => false

namespace Bench

@[simp] theorem history_withWire (b : Bench) (w : Wire) : (b.withWire w).history = b.history := rfl
@[simp] theorem history_leave (b : Bench) (exit : Exit) : (b.leave exit).history = b.history := rfl

theorem arrivedIn_deliver (b : Bench) (chunk : String) :
    arrivedIn (b.deliver chunk).history = arrivedIn b.history ++ chunk := by
  rw [deliver]
  cases filled : chunk.isEmpty with
  | true =>
    obtain rfl : chunk = "" := by simpa using filled
    simp
  | false => simp [Event.chunk?]

@[simp] theorem arrivedIn_recordExit (b : Bench) (exit : Exit) :
    arrivedIn (b.recordExit exit).history = arrivedIn b.history := by
  rw [recordExit]
  split
  · rfl
  · simp [Event.chunk?]

@[simp] theorem arrivedIn_closeOutput (b : Bench) :
    arrivedIn b.closeOutput.history = arrivedIn b.history := by
  rw [closeOutput]
  split
  · rfl
  · simp [Event.chunk?]

@[simp] theorem wire_closeOutput (b : Bench) : b.closeOutput.wire = b.wire := by
  rw [closeOutput]
  split <;> rfl

/-! ## What is still to come -/

/-- What has arrived stands, together with what the given moves will put out, for the text of a
byte stream. -/
inductive Coming (bytes : List UInt8) (b : Bench) (moves : List Item) : Prop
  | flowing {rest} (live : b.wire.isOver = false) (quiet : b.wire.closing = false)
      (opened : b.session.outputClosed = false) (held : Text.Held b.wire.decoder.held)
      (output : outputIn b.wire.exit.isSome moves = some rest)
      (whole : Text.decode bytes =
        (arrivedIn b.history).toList ++ Text.decode (b.wire.decoder.held ++ rest))
  | finished (ended : b.wire.isOver = true)
      (whole : Text.decode bytes = (arrivedIn b.history).toList)

/-- The session listens to its target, and has got what was held for it. -/
structure Attends (b : Bench) : Prop where
  listens : b.wire.listening = .already
  handed : b.wire.held = []

/-- The session listens to its target, and a byte stream is arriving. -/
structure Streaming (bytes : List UInt8) (b : Bench) : Prop where
  attends : Attends b
  coming : Coming bytes b b.agenda

namespace Coming

variable {bytes : List UInt8} {b c : Bench} {moves : List Item}

/-- Nothing that the program does touches the wire. -/
theorem keep (coming : Coming bytes b moves) (wire : c.wire = b.wire)
    (closed : c.session.outputClosed = b.session.outputClosed)
    (arrived : arrivedIn c.history = arrivedIn b.history) : Coming bytes c moves := by
  cases coming with
  | flowing live quiet opened held output whole =>
    rw [← wire] at live quiet held output whole
    exact .flowing live quiet (closed.trans opened) held output (arrived ▸ whole)
  | finished ended whole => exact .finished (wire ▸ ended) (arrived ▸ whole)

theorem emit (heard : b.wire.listening = .already) {chunk : List UInt8} {due : Millis}
    (coming : Coming bytes b (⟨due, .act (.emit chunk)⟩ :: moves)) :
    Coming bytes (b.emit chunk) moves := by
  cases coming with
  | flowing live quiet opened held output whole =>
    obtain ⟨rest, later, rfl⟩ := Option.map_eq_some_iff.mp output
    -- What the decoder gives arrives; what it holds stays in front of what is still to come.
    obtain ⟨stillHeld, split⟩ := Text.Decoder.feed_spec held chunk
    rw [Bench.emit, if_neg (by simp [live]), push, if_pos (by exact heard)]
    refine .flowing (by simpa [Wire.isOver] using live) (by simpa using quiet)
      (by simpa using opened) (by simpa using stillHeld) (by simpa using later) ?_
    rw [arrivedIn_deliver, whole, ← List.append_assoc _ chunk, split]
    simp
  | finished ended whole =>
    rw [Bench.emit, if_pos ended]
    exact .finished ended whole

/-- At the end of the output the decoder gives what it still holds. -/
theorem endOutput (heard : b.wire.listening = .already) {item : Item}
    (last : outputIn b.wire.exit.isSome (item :: moves) = some [])
    (coming : Coming bytes b (item :: moves)) :
    b.endOutput.wire.isOver = true ∧
      Text.decode bytes = (arrivedIn b.endOutput.history).toList := by
  cases coming with
  | flowing live quiet opened held output whole =>
    obtain rfl := Option.some.inj (last.symm.trans output)
    rw [Bench.endOutput, if_neg (by simp [live]), push, if_pos (by exact heard),
      if_neg (by simp [heard])]
    refine ⟨by simp [Wire.isOver], ?_⟩
    rw [arrivedIn_deliver, whole]
    simp [Text.Decoder.finish]
  | finished ended whole =>
    rw [Bench.endOutput, if_pos ended]
    exact ⟨by simp [Wire.isOver], whole⟩

/-- A move that puts out nothing leaves it to the others. -/
theorem skip {item : Item} (coming : Coming bytes b (item :: moves))
    (silent : outputIn b.wire.exit.isSome (item :: moves) = outputIn b.wire.exit.isSome moves) :
    Coming bytes b moves := by
  cases coming with
  | flowing live quiet opened held output whole =>
    exact .flowing live quiet opened held (silent ▸ output) whole
  | finished ended whole => exact .finished ended whole

/-- Each move puts out the next of the bytes that are still to come. -/
theorem make (heard : b.wire.listening = .already) {item : Item}
    (coming : Coming bytes b (item :: moves)) : Coming bytes (b.make item.move) moves := by
  obtain ⟨due, move⟩ := item
  cases move with
  | flushed => exact coming.skip rfl
  | act action =>
    show Coming bytes (b.act action) moves
    cases action with
    | emit chunk => exact coming.emit heard
    | finishOutput =>
      obtain ⟨ended, whole⟩ := coming.endOutput heard rfl
      exact .finished ended whole
    | failOutput =>
      cases coming with
      | flowing live quiet opened held output whole => contradiction
      | finished ended whole =>
        rw [act, if_neg (by simp [heard])]
        exact .finished (by simpa using ended) (by simpa using whole)
    | destroyOutput =>
      cases coming with
      | flowing live quiet opened held output whole => contradiction
      | finished ended whole =>
        rw [act, Bench.destroyOutput, if_pos ended]
        exact .finished (by simp [Wire.isOver]) whole
    | exit exit =>
      rw [act]
      split
      case isTrue gone => exact coming.skip (by simp [outputIn, gone])
      case isFalse running =>
        obtain ⟨ended, whole⟩ := coming.endOutput heard (by simp [outputIn, running])
        rw [exitTarget]
        split
        · exact .finished ended whole
        · exact .finished (by simpa [Wire.isOver] using ended) (by simpa using whole)
    | exitOnly exit =>
      rw [act]
      split
      case isTrue gone => exact coming.skip (by simp [outputIn, gone])
      case isFalse running =>
        rw [exitTarget, if_neg (by simp [heard])]
        cases coming with
        | flowing live quiet opened held output whole =>
          refine .flowing (by simpa [Wire.isOver] using live) (by simpa using quiet)
            (by simpa using opened) (by simpa using held) (by simpa [outputIn] using output) ?_
          simpa using whole
        | finished ended whole =>
          exact .finished (by simpa [Wire.isOver] using ended) (by simpa using whole)
    | interrupt =>
      have silent : Coming bytes b moves := coming.skip rfl
      rw [act, Bench.interrupt]
      split
      · refine silent.keep rfl rfl ?_
        rw [history_note, arrivedIn_append]
        exact String.append_empty
      · exact silent

end Coming

/-! ## A session that listens -/

namespace Attends

variable {b c : Bench}

theorem keep (attends : Attends b) (listening : c.wire.listening = b.wire.listening)
    (held : c.wire.held = b.wire.held) : Attends c :=
  ⟨listening.trans attends.listens, held.trans attends.handed⟩

theorem push (attends : Attends b) (chunk : String) : Attends (b.push chunk) := by
  rw [Bench.push, if_pos attends.listens]
  exact attends.keep (by simp) (by simp)

theorem endOutput (attends : Attends b) : Attends b.endOutput := by
  rw [Bench.endOutput]
  split
  · exact attends.keep rfl rfl
  · apply push
    exact attends.keep rfl rfl

theorem exitTarget (attends : Attends b) (exit : Exit) : Attends (b.exitTarget exit) := by
  rw [Bench.exitTarget]
  split
  · exact attends.keep rfl rfl
  · exact attends.keep (by simp) (by simp)

theorem act (attends : Attends b) (action : Action) : Attends (b.act action) := by
  cases action with
  | emit bytes =>
    rw [Bench.act, Bench.emit]
    split
    · exact attends
    · apply push
      exact attends.keep rfl rfl
  | finishOutput => exact attends.endOutput
  | failOutput =>
    rw [Bench.act, if_neg (by simp [attends.listens])]
    exact attends.keep (by simp) (by simp)
  | destroyOutput =>
    rw [Bench.act, Bench.destroyOutput]
    split
    · exact attends.keep rfl rfl
    · rw [if_neg (by simp [attends.listens])]
      exact attends.keep rfl rfl
  | exit exit =>
    rw [Bench.act]
    split
    · exact attends
    · exact attends.endOutput.exitTarget exit
  | exitOnly exit =>
    rw [Bench.act]
    split
    · exact attends
    · exact attends.exitTarget exit
  | interrupt =>
    rw [Bench.act, Bench.interrupt]
    split
    · exact attends.keep rfl rfl
    · exact attends

theorem make (attends : Attends b) (move : Move) : Attends (b.make move) := by
  cases move with
  | act action => exact attends.act action
  | flushed => exact attends

/-- There is nothing to hand over to such a session. -/
theorem handOver (attends : Attends b) : b.handOver = b := by
  have same : { b.wire with listening := .already, held := [] } = b.wire := by
    rw [← attends.listens, ← attends.handed]
  rw [Bench.handOver, attends.handed, same]
  rfl

end Attends

/-! ## Reading -/

namespace Streaming

variable {bytes : List UInt8} {b c : Bench}

theorem keep (streaming : Streaming bytes b) (wire : c.wire = b.wire) (agenda : c.agenda = b.agenda)
    (closed : c.session.outputClosed = b.session.outputClosed)
    (arrived : arrivedIn c.history = arrivedIn b.history) : Streaming bytes c where
  attends := streaming.attends.keep (by rw [wire]) (by rw [wire])
  coming := agenda ▸ streaming.coming.keep wire closed arrived

theorem tellExit (streaming : Streaming bytes b) : Streaming bytes b.tellExit := by
  rw [Bench.tellExit]
  split
  · exact streaming.keep (by simp) (by simp) (by simp) (by simp)
  · exact streaming

theorem tellEnd (streaming : Streaming bytes b) : Streaming bytes b.tellEnd := by
  rw [Bench.tellEnd]
  split
  case isTrue closing =>
    refine ⟨streaming.attends.keep (by simp) (by simp), ?_⟩
    cases streaming.coming with
    | flowing live quiet => simp [quiet] at closing
    | finished ended whole =>
      exact .finished (by simpa [Wire.isOver] using ended) (by simpa using whole)
  case isFalse => exact streaming

theorem tick (streaming : Streaming bytes b) : Streaming bytes b.tick := by
  rw [Bench.tick, if_neg (by simp [streaming.attends.listens]), streaming.attends.handOver]
  exact streaming.tellExit.tellEnd

theorem notePause (streaming : Streaming bytes b) : Streaming bytes b.notePause := by
  refine streaming.keep rfl rfl rfl ?_
  rw [Bench.notePause, history_note, arrivedIn_append]
  exact String.append_empty

theorem step (streaming : Streaming bytes b) {item : Item} {rest : List Item}
    (agenda : b.agenda = item :: rest) : Streaming bytes (b.step item rest) := by
  have first : Coming bytes b (item :: rest) := agenda ▸ streaming.coming
  have moved : Coming bytes ((b.withAgenda rest).moveTo item.due) (item :: rest) :=
    first.keep rfl rfl rfl
  have attends : Attends ((b.withAgenda rest).moveTo item.due) := streaming.attends.keep rfl rfl
  have made : Streaming bytes (((b.withAgenda rest).moveTo item.due).make item.move) :=
    ⟨attends.make item.move, by simpa using moved.make attends.listens⟩
  exact made.tick.notePause

theorem runAgenda (streaming : Streaming bytes b) (w : Wait) (due : Option Millis)
    {agenda : List Item} (same : b.agenda = agenda) :
    Streaming bytes (runAgenda w due b agenda).1 := by
  induction agenda generalizing b with
  | nil => cases due <;> exact streaming.keep rfl same.symm rfl rfl
  | cons item rest ih =>
    rw [Bench.runAgenda]
    cases due.filter (· < item.due) with
    | some moment => exact streaming.keep rfl same.symm rfl rfl
    | none =>
      have stepped := streaming.step same
      cases (b.step item rest).woken w with
      | some wake => exact stepped
      | none => exact ih stepped (by simp)

theorem pause (streaming : Streaming bytes b) (w : Wait) : Streaming bytes (b.pause w).1 := by
  have registered (due : Option Millis) : Streaming bytes (b.register w due) :=
    streaming.keep rfl rfl rfl rfl
  have body (due : Option Millis) : Streaming bytes ((b.register w due).pauseBody w due).1 := by
    simp only [pauseBody]
    split
    · exact (registered due).keep rfl rfl rfl rfl
    · have ready : Streaming bytes (b.register w due).tick.notePause :=
        (registered due).tick.notePause
      cases (b.register w due).tick.notePause.woken w with
      | some wake => exact ready
      | none => exact ready.runAgenda w due rfl
  exact (body _).keep rfl rfl rfl rfl

theorem waitForOutput (streaming : Streaming bytes b) (limit : Millis) (heeds : Bool) :
    Streaming bytes (b.waitForOutput limit heeds) := by
  rw [Bench.waitForOutput]
  split
  · exact streaming
  · exact streaming.pause _

/-- What the session does with its pending output is none of the target's business. -/
theorem evolve {deeds : List Deed} (streaming : Streaming bytes b) (evolves : Evolves deeds b c)
    (indoors : .world ∉ deeds) : Streaming bytes c := by
  have frame (deed : Deed) (member : deed ∈ deeds) (b c : Bench) (step : Step deed b c) :
      (c.wire, c.agenda, c.session.outputClosed) = (b.wire, b.agenda, b.session.outputClosed) := by
    cases step with
    | alike | arrive | close | exit | abort | pause => contradiction
    | _ => rfl
  have same := evolves.frame (fun b => (b.wire, b.agenda, b.session.outputClosed)) frame
  simp only [Prod.mk.injEq] at same
  exact streaming.keep same.1 same.2.1 same.2.2 (evolves.arrivedIn_eq indoors)

theorem recordChunk (streaming : Streaming bytes b) {chunk : String} {session : Session}
    (taken : b.session.takeChunk = some (chunk, session)) :
    Streaming bytes (b.recordChunk chunk session).1 :=
  streaming.evolve (evolves_recordChunk taken) (by simp)

theorem recordMarked (streaming : Streaming bytes b) {chunk : String} {session : Session}
    (taken : b.session.takeChunk = some (chunk, session)) (count : Nat) :
    Streaming bytes (b.recordMarked chunk session count).1 :=
  streaming.evolve (evolves_recordMarked taken count) (by simp)

theorem readLoop (streaming : Streaming bytes b) (marker : List Char) (deadline : Millis)
    (heeds : Bool) (window : List Char) (text : String) :
    Streaming bytes (readLoop marker deadline heeds window text b).1 := by
  fun_induction Bench.readLoop marker deadline heeds window text b with
  | case1 | case6 | case7 => exact streaming
  | case2 _ _ _ _ _ _ taken count _ _ _ refused =>
    have marked := streaming.recordMarked taken count
    rw [refused] at marked
    exact marked
  | case3 _ _ _ _ _ _ taken count _ _ _ recorded =>
    have marked := streaming.recordMarked taken count
    rw [recorded] at marked
    exact marked
  | case4 _ _ _ _ _ _ taken => exact streaming.recordChunk taken
  | case5 _ _ _ _ _ _ taken _ _ ih => exact ih (streaming.recordChunk taken)
  | case8 _ _ b _ _ _ _ ih => exact ih (streaming.waitForOutput _ heeds)

theorem readUntil (streaming : Streaming bytes b) (marker : String) (limit : Millis)
    (heeds : Bool) : Streaming bytes (b.readUntil marker limit heeds).1 := by
  have read := streaming.readLoop marker.toList (b.clock + limit) heeds [] ""
  rw [Bench.readUntil]
  split
  · exact streaming
  · split <;> rename_i same <;> rw [same] at read <;> exact read

theorem drain (streaming : Streaming bytes b) (limit : Millis) :
    Streaming bytes (b.drain limit).1 := by
  rw [Bench.drain]
  generalize b.clock + limit = deadline, "" = text
  fun_induction drainLoop deadline text b with
  | case1 _ _ _ _ taken => exact streaming.recordChunk taken
  | case2 _ _ _ _ taken _ ih => exact ih (streaming.recordChunk taken)
  | case3 | case4 => exact streaming
  | case5 _ _ _ _ _ ih => exact ih (streaming.waitForOutput _ false)

/-! ## Whole sequences of calls -/

theorem answering {α : Type} {give : α → Answer} {result : Bench × Except Fault α}
    (streaming : Streaming bytes result.1) : Streaming bytes (answering give result).1 := by
  obtain ⟨c, value | fault⟩ := result <;> exact streaming

theorem perform (streaming : Streaming bytes b) (heeds : Bool) {call : Call}
    (reading : call.isReading = true) : Streaming bytes (b.perform heeds call).1 := by
  cases call with
  | read marker limit => exact (streaming.readUntil marker limit heeds).answering
  | drain limit => exact (streaming.drain limit).answering
  | waitForOutput limit => exact streaming.waitForOutput limit heeds
  | advance span => exact streaming.runAgenda {} _ rfl
  | _ => contradiction

theorem rest (streaming : Streaming bytes b) : Streaming bytes b.rest :=
  streaming.notePause.tick.notePause

theorem calls (streaming : Streaming bytes b) {calls : List (Bool × Call)}
    (reading : ∀ call ∈ calls, call.2.isReading = true) : Streaming bytes (b.calls calls) := by
  induction calls generalizing b with
  | nil => exact streaming
  | cons first others ih =>
    have done := streaming.perform first.1 (reading first List.mem_cons_self)
    exact ih done.rest fun call member => reading call (List.mem_cons_of_mem _ member)

end Streaming

/-! ## From the launch to the end of the stream -/

section Launch

variable {target : Target} {bytes : List UInt8}

/-- A session that is started is about to get the whole output of its target. -/
theorem streaming_start {b : Bench} (session : b.session = {}) (wire : b.wire = {})
    (silent : b.history = []) (output : outputIn false b.agenda = some bytes) (heeds : Bool) :
    Streaming bytes (b.call heeds .start).1 := by
  let s := (b.withSession { state := .running }).withWire { listening := .soon }
  have started : b.start = (s, .ok ()) := by simp [start, session, wire, Session.start, s]
  -- The first pause of the session makes it listen.
  have handed : s.notePause.handOver = s.notePause.withWire { listening := .already } := rfl
  have streaming : Streaming bytes (s.notePause.withWire { listening := .already }) := by
    refine ⟨⟨rfl, rfl⟩, .flowing rfl rfl rfl .none output ?_⟩
    have none : arrivedIn s.notePause.history = "" := by
      rw [notePause, history_note, arrivedIn_append, arrivedIn_singleton]
      show arrivedIn b.history ++ "" = ""
      rw [silent]
      rfl
    rw [history_withWire, none]
    rfl
  have told :
      s.notePause.tick = (s.notePause.withWire { listening := .already }).tellExit.tellEnd := rfl
  rw [call, perform, started]
  show Streaming bytes s.notePause.tick.notePause
  rw [told]
  exact streaming.tellExit.tellEnd.notePause

theorem streaming_launch (output : target.output? = some bytes) (heeds : Bool) :
    Streaming bytes ((launch target).call heeds .start).1 :=
  streaming_start (alike_launch target).session (wire_launch target) (history_launch target) output
    heeds

theorem calls_append (b : Bench) (first second : List (Bool × Call)) :
    b.calls (first ++ second) = (b.calls first).calls second := by
  induction first generalizing b with
  | nil => rfl
  | cons call rest ih => exact ih _

/-- Reading seals no transcript and handles no output piece by piece. -/
theorem evolves_reads (b : Bench) {reads : List (Bool × Call)}
    (reading : ∀ call ∈ reads, call.2.isReading = true) :
    Evolves [.world, .start, .consume, .prompt] b (b.calls reads) := by
  induction reads generalizing b with
  | nil => exact .refl
  | cons first others ih =>
    obtain ⟨heeds, call⟩ := first
    have kind : call.isReading = true := reading (heeds, call) List.mem_cons_self
    have done : Evolves [.world, .start, .consume, .prompt] b (b.perform heeds call).1 := by
      cases call with
      | read marker limit =>
        exact evolves_answering _ ((evolves_readUntil b marker limit heeds).mono (by decide))
      | drain limit => exact evolves_answering _ ((evolves_drain b limit).mono (by decide))
      | waitForOutput limit => exact .of_passes (passes_waitForOutput b limit heeds) (by decide)
      | advance span => exact .of_passes (passes_advance b span) (by decide)
      | _ => contradiction
    have rested := done.trans (.of_passes (passes_rest _) (by decide))
    exact rested.trans (ih _ fun other member => reading other (List.mem_cons_of_mem _ member))

theorem evolves_begun (target : Target) {reads : List (Bool × Call)}
    (reading : ∀ call ∈ reads, call.2.isReading = true) :
    Evolves [.world, .start, .consume, .prompt] (launch target)
      ((launch target).calls ((true, .start) :: reads)) := by
  have started : Evolves [.world, .start, .consume, .prompt] (launch target)
      ((launch target).perform true .start).1 :=
    evolves_answering _ ((evolves_start _).mono (by decide))
  exact (started.trans (.of_passes (passes_rest _) (by decide))).trans (evolves_reads _ reading)

/-- A session from its start, through some reads, to the end of its output and its own end. -/
def readOut (target : Target) (reads : List (Bool × Call)) (limit : Millis) : Bench :=
  (launch target).calls ((true, .start) :: reads ++ [(true, .drain limit), (true, .finish)])

theorem readOut_eq (target : Target) (reads : List (Bool × Call)) (limit : Millis) :
    readOut target reads limit =
      (((launch target).calls ((true, .start) :: reads)).drain limit).1.rest.finish.rest := by
  have drained (b : Bench) : (b.perform true (.drain limit)).1 = (b.drain limit).1 := by
    rw [perform]
    obtain ⟨c, value | fault⟩ := b.drain limit <;> rfl
  rw [readOut, calls_append, ← drained]
  rfl

/-- However the output of a target is cut into chunks and whenever they come, and whatever is read
in between: a session that reads its output to the end has in its transcript the text that the bytes
of the output stand for as a whole, and the bytes of the transcript stand for the transcript. -/
theorem transcript_decodes_output {target : Target} {bytes : List UInt8}
    (output : target.output? = some bytes) {reads : List (Bool × Call)}
    (reading : ∀ call ∈ reads, call.2.isReading = true) {limit : Millis}
    (closed : (((launch target).calls ((true, .start) :: reads)).drain
      limit).1.session.outputClosed = true) :
    (readOut target reads limit).session.transcript.isSealed = true ∧
      (∀ text, Text.Decodes bytes text ↔
        (readOut target reads limit).session.transcript.text.toList = text) ∧
      ∀ text, Text.Decodes (Text.encode (readOut target reads limit).session.transcript.text) text ↔
        (readOut target reads limit).session.transcript.text.toList = text := by
  rw [readOut_eq]
  generalize started : (launch target).calls ((true, .start) :: reads) = b at closed ⊢
  have begun : Evolves [.world, .start, .consume, .prompt] (launch target) b :=
    started ▸ evolves_begun target reading
  have streaming : Streaming bytes b := started ▸ (streaming_launch output true).calls reading
  have arrives := streaming.drain limit
  -- The drain has consumed all that arrived, and all of the stream has arrived.
  obtain ⟨m, more, consumes, ⟨done, empty, -⟩ | ⟨-, closed⟩⟩ :=
    drainLoop_spec (b.clock + limit) "" b
  · rw [drain, done] at arrives closed ⊢
    have evolves := begun.trans (consumes.evolves.mono (by simp))
    have launched := alike_launch target
    have opened : m.session.transcript.isSealed = false := by
      rw [evolves.isSealed_eq (by simp), launched.session]
    obtain ⟨fresh, arrived, shown⟩ := evolves.balance (by simp) opened
    have consumed : m.session.transcript.text = arrivedIn m.history := by
      rw [arrived, history_launch]
      simpa [arrivedIn, empty, launched.session] using shown
    have whole : m.session.transcript.text.toList = Text.decode bytes := by
      cases arrives.coming with
      | flowing _ _ opened => exact absurd (opened.symm.trans closed) (by simp)
      | finished _ whole => rw [consumed, whole]
    have ended : m.rest.finish.rest.session.transcript = m.session.transcript.close := by
      rw [(passes_rest _).transcript_eq (by simp) (by simp), finish, session_note,
        session_withSession, ← (passes_rest m).transcript_eq (by simp) (by simp)]
      rfl
    refine ⟨by rw [ended]; rfl, fun text => ?_, fun text => ?_⟩
    · rw [ended, Transcript.text_close, whole, Text.decodes_iff]
    · rw [ended, Transcript.text_close, Text.decodes_iff,
        (Text.decodes_encode m.session.transcript.text).decode_eq]
  · rw [begun.isSealed_eq (by simp), (alike_launch target).session] at closed
    contradiction

/-! ### Any way of cutting -/

/-- A target that puts out some chunks, each at its moment, and then ends its output. -/
def chunked (chunks : List (Millis × List UInt8)) (last : Millis) : Target where
  events := chunks.map (fun chunk => { after := some chunk.1, action := .emit chunk.2 }) ++
    [{ after := some last, action := .finishOutput }]

theorem insert_eq_append {agenda : List Item} {item : Item}
    (late : ∀ other ∈ agenda, other.due ≤ item.due) :
    Agenda.insert item agenda = agenda ++ [item] := by
  induction agenda with
  | nil => rfl
  | cons first rest ih =>
    rw [Agenda.insert, if_pos (late first List.mem_cons_self),
      ih fun other member => late other (List.mem_cons_of_mem _ member)]
    rfl

/-- What a target does in the order of its moments stands in that order on the agenda. -/
theorem agenda_launch {events : List Timed}
    (ordered : events.Pairwise (·.after.getD 0 ≤ ·.after.getD 0)) :
    (launch { events }).agenda =
      events.map fun timed => ⟨0 + timed.after.getD 0, .act timed.action⟩ := by
  have scheduled : ∀ (events : List Timed) (b : Bench),
      events.Pairwise (·.after.getD 0 ≤ ·.after.getD 0) →
      (∀ item ∈ b.agenda, ∀ timed ∈ events, item.due ≤ b.clock + timed.after.getD 0) →
      (events.foldl (fun b timed =>
        b.schedule (timed.after.getD 0) (.act timed.action)) b).agenda =
          b.agenda ++ events.map fun timed =>
            ⟨b.clock + timed.after.getD 0, .act timed.action⟩ := by
    intro events
    induction events with
    | nil => simp
    | cons timed rest ih =>
      intro b ordered late
      obtain ⟨first, others⟩ := List.pairwise_cons.mp ordered
      have inserted : (b.schedule (timed.after.getD 0) (.act timed.action)).agenda =
          b.agenda ++ [⟨b.clock + timed.after.getD 0, .act timed.action⟩] :=
        insert_eq_append fun item member => late item member timed List.mem_cons_self
      rw [List.foldl_cons, ih _ others, inserted]
      · simp [schedule]
      · intro item member other later
        rw [inserted] at member
        rcases List.mem_append.mp member with old | new
        · exact late item old other (List.mem_cons_of_mem _ later)
        · rw [List.mem_singleton.mp new]
          have after := first other later
          show b.clock + timed.after.getD 0 ≤ b.clock + other.after.getD 0
          grind
  exact scheduled events _ ordered (by simp)

/-- Such a target puts out the bytes of its chunks, one chunk after the other. -/
theorem output?_chunked {chunks : List (Millis × List UInt8)} {last : Millis}
    (ordered : chunks.Pairwise (·.1 ≤ ·.1)) (ends : ∀ chunk ∈ chunks, chunk.1 ≤ last) :
    (chunked chunks last).output? = some (chunks.map (·.2)).flatten := by
  have sorted : (chunked chunks last).events.Pairwise (·.after.getD 0 ≤ ·.after.getD 0) := by
    refine List.pairwise_append.mpr
      ⟨List.pairwise_map.mpr ordered, List.pairwise_singleton .., ?_⟩
    intro timed early final late
    obtain ⟨chunk, member, rfl⟩ := List.mem_map.mp early
    rw [List.mem_singleton.mp late]
    exact ends chunk member
  show outputIn false (launch { events := (chunked chunks last).events }).agenda = _
  rw [agenda_launch sorted]
  clear ordered ends sorted
  induction chunks with
  | nil => rfl
  | cons chunk rest ih =>
    show Option.map (chunk.2 ++ ·) (outputIn false ((chunked rest last).events.map _)) = _
    rw [ih]
    rfl

/-- A character in two chunks, and a byte that is none. -/
theorem transcript_decodes_output_split :
    (readOut (chunked [(1, [0xE2, 0x82]), (2, [0xAC, 0xFF])] 3)
      [(true, .advance 5), (true, .read "$ " 10)] 10).session.transcript.text.toList =
        ['\u20AC', '\uFFFD'] := by
  have output : (chunked [(1, [0xE2, 0x82]), (2, [0xAC, 0xFF])] 3).output? =
      some [0xE2, 0x82, 0xAC, 0xFF] := output?_chunked (by decide +kernel) (by decide +kernel)
  have ended : ((launch (chunked [(1, [0xE2, 0x82]), (2, [0xAC, 0xFF])] 3)).calls
      [(true, .start), (true, .advance 5)]).session.outputClosed = true := by decide +kernel
  have closed : (((launch (chunked [(1, [0xE2, 0x82]), (2, [0xAC, 0xFF])] 3)).calls
      [(true, .start), (true, .advance 5), (true, .read "$ " 10)]).drain
        10).1.session.outputClosed = true :=
    (evolves_drain _ 10).onward.closed ((evolves_call _ true (.read "$ " 10)).onward.closed ended)
  have stands : Text.Decodes [0xE2, 0x82, 0xAC, 0xFF] ['\u20AC', '\uFFFD'] :=
    Text.decodes_iff.mpr (by decide +kernel)
  exact ((transcript_decodes_output output (by decide) closed).2.1 _).mp stands

end Launch

end Bench

end ConsoleHarness
