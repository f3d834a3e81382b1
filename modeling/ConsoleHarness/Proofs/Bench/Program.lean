import ConsoleHarness.Proofs.Bench.Reading

/-! # What the program does

The footprint of every operation of the program, from single requests up to whole sequences of
calls.  `Call.keepsOutput` tells the calls that handle output as a whole from the three raw ones,
which take, return or record a piece of it on their own.
-/

namespace ConsoleHarness

/-- Whether a call leaves it to the session where output goes. -/
def Call.keepsOutput : Call → Bool
  | .takeChunk | .pushBack _ | .record _ => false
  | _ => true

namespace Bench

/-! ## Requests -/

theorem evolves_log (b : Bench) (logs : Bool) (level : LogLevel) (message : String) :
    Evolves [.tell] b (b.log logs level message) := by
  unfold log
  split
  · exact .single .log
  · exact .refl

theorem evolves_start (b : Bench) : Evolves [.world, .start] b b.start.1 := by
  unfold start Session.start
  split
  · exact .refl
  · rename_i session started
    split at started
    · rename_i created
      obtain rfl := Except.ok.inj started
      exact (Evolves.of_step (.start created) (by simp)).trans
        (.of_passes (passes_withWire (by rfl)) (by simp))
    · contradiction

theorem evolves_readUntil (b : Bench) (marker : String) (limit : Millis) (heeds : Bool) :
    Evolves [.world, .consume, .prompt] b (b.readUntil marker limit heeds).1 := by
  by_cases filled : marker = ""
  · unfold readUntil
    rw [if_pos (by simpa using filled)]
    exact .refl
  · obtain ⟨m, more, consumes, ends⟩ := readUntil_spec b filled limit heeds
    have read : Evolves [.world, .consume, .prompt] b m := consumes.evolves.mono (by simp)
    rcases ends with ⟨_, done, _⟩ | ⟨_, _, done, _⟩ | ⟨done, _⟩
    · rw [done]; exact read.trans (.of_step .prompt (by simp))
    · rw [done]; exact read
    · rw [done]; exact read

theorem evolves_drain (b : Bench) (limit : Millis) :
    Evolves [.world, .consume] b (b.drain limit).1 := by
  obtain ⟨m, more, consumes, ⟨done, _⟩ | ⟨done, _⟩⟩ := drainLoop_spec (b.clock + limit) "" b
  · rw [drain, done]; exact consumes.evolves
  · rw [drain, done]; exact consumes.evolves

/-! ### Writes -/

/-- What handing over a text comes to: the target refuses it, the write fails in the end, or it is
completed. -/
inductive WritesTo (text : String) (b : Bench) : Bench × Except WriteFailure Unit → Prop
  | refused {n failure} (step : Step .write b n)
      (noted : n.history = b.history ++ [⟨b.clock, .wrote text false⟩]) :
      WritesTo text b (n, .error failure)
  | failed {n m failure} (step : Step .write b n)
      (noted : n.history = b.history ++ [⟨b.clock, .wrote text true⟩]) (passes : Passes n m) :
      WritesTo text b (m, .error failure)
  | completed {n m} (step : Step .write b n)
      (noted : n.history = b.history ++ [⟨b.clock, .wrote text true⟩]) (passes : Passes n m) :
      WritesTo text b (m.note (.written text), .ok ())

theorem write_writesTo (b : Bench) (text : String) : WritesTo text b (b.write text) := by
  unfold write
  dsimp only
  split
  · exact .refused .refuse (by simp [history, note])
  · have noted : ({ b with attempts := b.attempts + 1, accepted := b.accepted ++ [text] }.note
        (.wrote text true)).history = b.history ++ [⟨b.clock, .wrote text true⟩] := by
      simp [history, note]
    unfold complete
    split
    · exact .completed .hand noted ((passes_begin _ _).trans (passes_flush _ _))
    · exact .failed .hand noted ((passes_begin _ _).trans (passes_flush _ _))

theorem WritesTo.evolves {text : String} {b : Bench} {result : Bench × Except WriteFailure Unit}
    (writes : WritesTo text b result) : Evolves [.world, .write] b result.1 := by
  cases writes with
  | refused step => exact .of_step step (by simp)
  | failed step _ passes =>
    exact (Evolves.of_step step (by simp)).trans (.of_passes passes (by simp))
  | completed step _ passes =>
    have flushed := (Evolves.of_step step (by simp : _ ∈ [.world, .write])).trans
      (.of_passes passes (by simp))
    exact flushed.trans (.of_step .complete (by simp))

theorem evolves_write (b : Bench) (text : String) :
    Evolves [.world, .write] b (b.write text).1 := (write_writesTo b text).evolves

theorem claimPrompt_eq_ok {s t : Session} {line : String} (claimed : s.claimPrompt line = .ok t) :
    s.state = .running ∧ s.promptReady = true ∧ t = { s with promptReady := false } := by
  unfold Session.claimPrompt at claimed
  split at claimed
  · contradiction
  · rename_i running
    split at claimed
    · rename_i ready
      exact ⟨Decidable.not_not.mp running, ready, (Except.ok.inj claimed).symm⟩
    · contradiction

theorem evolves_sendLine (b : Bench) (line : String) :
    Evolves [.world, .write] b (b.sendLine line).1 := by
  unfold sendLine
  split
  · exact .refl
  · rename_i session claimed
    obtain ⟨running, ready, rfl⟩ := claimPrompt_eq_ok claimed
    have written := (Evolves.of_step (.claim running ready) (by simp)).trans
      (evolves_write (b.withSession { b.session with promptReady := false }) (line ++ "\n"))
    split <;> rename_i same <;> rw [same] at written <;> exact written

/-! ### Signals -/

/-- What sending a signal for the session comes to: it cannot be delivered, or it is, and then the
session counts as killed. -/
inductive KillsTo (name : String) (b : Bench) : Bench × Bool → Prop
  | refused {n} (step : Step .kill b n) (same : n.session = b.session)
      (noted : n.history = b.history ++ [⟨b.clock, .killed name false⟩]) :
      KillsTo name b (n, false)
  | delivered {n m} (step : Step .kill b n) (same : n.session = b.session)
      (noted : n.history = b.history ++ [⟨b.clock, .killed name true⟩]) (passes : Passes n m) :
      KillsTo name b (m.withSession m.session.markKilled, true)

theorem evolves_signal (b : Bench) (name : String) :
    Evolves [.world, .kill] b (b.signal name).1 := by
  unfold signal
  dsimp only
  split
  · exact .of_step .signal (by simp)
  · exact (Evolves.of_step .signal (by simp)).trans (.of_passes (passes_begin _ _) (by simp))

theorem kill_killsTo (b : Bench) (name : String) : KillsTo name b (b.kill name) := by
  unfold kill signal
  dsimp only
  split
  · rename_i c same
    split at same
    · simp at same
    · obtain ⟨rfl, _⟩ := Prod.mk.inj same
      exact .delivered .signal rfl (by simp [history, note]) (passes_begin _ _)
  · rename_i c same
    split at same
    · obtain ⟨rfl, _⟩ := Prod.mk.inj same
      exact .refused .signal rfl (by simp [history, note])
    · simp at same

theorem KillsTo.evolves {name : String} {b : Bench} {result : Bench × Bool}
    (kills : KillsTo name b result) : Evolves [.world, .kill] b result.1 := by
  cases kills with
  | refused step => exact .of_step step (by simp)
  | @delivered n m step _ noted passes =>
    -- The mark asks for a delivered signal in the journal, and what passed meanwhile erased none.
    have seen : m.Saw (.killed name true) := passes.saw
      ⟨⟨b.clock, .killed name true⟩, by rw [noted]; simp, rfl⟩
    have sent := (Evolves.of_step step (by simp : _ ∈ [.world, .kill])).trans
      (.of_passes passes (by simp))
    exact sent.trans (.of_step (.mark seen) (by simp))

theorem evolves_kill (b : Bench) (name : String) :
    Evolves [.world, .kill] b (b.kill name).1 := (kill_killsTo b name).evolves

/-! ## Scripts -/

/-- Everything that a script does. -/
abbrev scriptDeeds : List Deed := [.world, .consume, .prompt, .write, .tell]

theorem evolves_sendScripted (b : Bench) (script : Script) (line : String) (heeds logs : Bool) :
    Evolves [.world, .write, .tell] b (b.sendScripted script line heeds logs).1 := by
  have logged : Evolves [.world, .write, .tell] b
      (b.log logs .info s!"Sending '{line}' command...") := (evolves_log _ _ _ _).mono (by simp)
  have sent := logged.trans ((evolves_sendLine _ line).mono (by simp))
  unfold sendScripted
  split
  · rename_i same; rw [same] at sent; exact sent
  · rename_i same; rw [same] at sent; exact sent
  · rename_i same
    rw [same] at sent
    exact sent.trans (.of_passes (passes_settleDelay _ _ _) (by simp))

theorem evolves_runCommands (b : Bench) (script : Script) (heeds logs : Bool)
    (sent commands : List String) :
    Evolves scriptDeeds b (b.runCommands script heeds logs sent commands).1 := by
  induction commands generalizing b sent with
  | nil =>
    have done : Evolves scriptDeeds b _ :=
      (evolves_sendScripted b script script.shutdownCommand heeds logs).mono (by simp)
    unfold runCommands
    split
    · rename_i same; rw [same] at done; exact done
    · rename_i same
      rw [same] at done
      dsimp only
      split
      · exact done.trans ((evolves_log _ _ _ _).mono (by simp))
      · exact done
  | cons command rest ih =>
    have done : Evolves scriptDeeds b _ :=
      (evolves_sendScripted b script command heeds logs).mono (by simp)
    -- After each line comes a read, and only a read that found its prompt leads to the next line.
    unfold runCommands
    split
    · rename_i same; rw [same] at done; exact done
    · rename_i c report same
      rw [same] at done
      dsimp only
      split
      · exact done.trans ((evolves_log _ _ _ _).mono (by simp))
      · have read := done.trans ((evolves_readUntil c script.prompt script.promptTimeout heeds).mono
          (by simp))
        split
        · rename_i same; rw [same] at read; exact read
        · rename_i same
          rw [same] at read
          split
          · exact read.trans (ih _ _)
          · exact read.trans ((evolves_log _ _ _ _).mono (by simp))

theorem evolves_runScript (b : Bench) (script : Script) (heeds logs : Bool) :
    Evolves scriptDeeds b (b.runScript script heeds logs).1 := by
  have logged : Evolves scriptDeeds b (b.log logs .info "Waiting for shell...") :=
    (evolves_log _ _ _ _).mono (by simp)
  have read := logged.trans ((evolves_readUntil _ script.prompt script.bootTimeout heeds).mono
    (by simp))
  unfold runScript
  split
  · rename_i same; rw [same] at read; exact read
  · rename_i same
    rw [same] at read
    split
    · exact read.trans (evolves_runCommands _ _ _ _ _ _)
    · exact read.trans ((evolves_log _ _ _ _).mono (by simp))

/-! ## The end of a session -/

/-- Only a target that is not known to be gone is killed. -/
theorem forceTerminate_cases (b : Bench) (grace : Millis) (logs : Bool) :
    (b.session.exit.isSome = true ∧ (b.forceTerminate grace logs).1 = b) ∨
      (b.session.exit = none ∧
        Evolves [.world, .tell] (b.kill "SIGKILL").1 (b.forceTerminate grace logs).1) := by
  unfold forceTerminate
  split
  · rename_i known
    exact .inl ⟨known, rfl⟩
  · rename_i unknown
    refine .inr ⟨by simpa using unknown, ?_⟩
    have waited : Evolves [.world, .tell] (b.kill "SIGKILL").1 _ :=
      .of_passes (passes_awaitExit _ grace false) (by simp)
    dsimp only
    split
    · rename_i same; rw [same] at waited; exact waited
    all_goals
      rename_i same
      rw [same] at waited
      exact waited.trans ((evolves_log _ _ _ _).mono (by simp))

theorem evolves_forceTerminate (b : Bench) (grace : Millis) (logs : Bool) :
    Evolves [.world, .kill, .tell] b (b.forceTerminate grace logs).1 := by
  rcases forceTerminate_cases b grace logs with ⟨_, same⟩ | ⟨_, after⟩
  · rw [same]; exact .refl
  · exact ((evolves_kill b "SIGKILL").mono (by simp)).trans (after.mono (by simp))

/-- A target is dismissed by waiting for it, by killing it, or both. -/
theorem dismiss_cases (b : Bench) (status : ScriptStatus) (timeouts : Timeouts)
    (heeds logs : Bool) :
    ∃ m, Evolves [.world, .tell] b m ∧
      (status = .completed → Evolves [.tell] (b.awaitExit timeouts.exit heeds).1 m) ∧
      ((b.dismiss status timeouts heeds logs).1 = m ∨
        (b.dismiss status timeouts heeds logs).1 =
          (m.forceTerminate timeouts.killGrace logs).1) := by
  cases status with
  | completed =>
    have waited : Evolves [.world, .tell] b (b.awaitExit timeouts.exit heeds).1 :=
      .of_passes (passes_awaitExit b timeouts.exit heeds) (by simp)
    unfold dismiss
    dsimp only
    split
    · rename_i c same
      rw [same] at waited ⊢
      exact ⟨c, waited, fun _ => .refl, .inl rfl⟩
    all_goals
      rename_i c same
      rw [same] at waited ⊢
      exact ⟨_, waited.trans ((evolves_log c logs _ _).mono (by simp)),
        fun _ => evolves_log c logs _ _, .inr rfl⟩
  | aborted | interrupted =>
    exact ⟨_, (evolves_log b logs _ _).mono (by simp), by simp, .inr rfl⟩

theorem evolves_dismiss (b : Bench) (status : ScriptStatus) (timeouts : Timeouts)
    (heeds logs : Bool) :
    Evolves [.world, .kill, .tell] b (b.dismiss status timeouts heeds logs).1 := by
  obtain ⟨m, waited, _, same | same⟩ := dismiss_cases b status timeouts heeds logs
  · rw [same]
    exact waited.mono (by simp)
  · rw [same]
    exact (waited.mono (by simp)).trans (evolves_forceTerminate _ _ _)

/-- Once its target is dismissed, a session is drained and sealed. -/
theorem evolves_settle_of_dismiss (b : Bench) (status : ScriptStatus) (timeouts : Timeouts)
    (heeds logs : Bool) :
    Evolves [.world, .consume, .seal] (b.dismiss status timeouts heeds logs).1
      (b.settle status timeouts heeds logs).1 := by
  have drained : Evolves [.world, .consume, .seal] (b.dismiss status timeouts heeds logs).1 _ :=
    (evolves_drain _ timeouts.drain).mono (by simp)
  unfold settle
  dsimp only
  split
  · rename_i same; rw [same] at drained; exact drained
  · rename_i same
    rw [same] at drained
    exact drained.trans (.of_step .finish (by simp))

/-- Everything that the end of a session does. -/
abbrev settleDeeds : List Deed := [.world, .consume, .kill, .seal, .tell]

theorem evolves_settle (b : Bench) (status : ScriptStatus) (timeouts : Timeouts)
    (heeds logs : Bool) :
    Evolves settleDeeds b (b.settle status timeouts heeds logs).1 :=
  ((evolves_dismiss b status timeouts heeds logs).mono (by simp)).trans
    ((evolves_settle_of_dismiss b status timeouts heeds logs).mono (by simp))

/-! ## Calls -/

theorem evolves_answering {α : Type} {deeds : List Deed} {b : Bench} (give : α → Answer)
    {result : Bench × Except Fault α} (evolves : Evolves deeds b result.1) :
    Evolves deeds b (answering give result).1 := by
  unfold answering
  split
  · exact evolves
  · exact evolves

/-- Every call but the raw ones leaves output to the session. -/
theorem evolves_perform_orderly (b : Bench) (heeds : Bool) {call : Call}
    (keeps : call.keepsOutput = true) : Evolves Deed.orderly b (b.perform heeds call).1 := by
  cases call with
  | start => exact evolves_answering _ ((evolves_start b).mono (by decide))
  | takeChunk | pushBack _ | record _ => contradiction
  | markPromptReady => exact .of_step .prompt (by decide)
  | transcript | pid => exact .refl
  | sealTranscript => exact .of_step .freeze (by decide)
  | waitForOutput limit => exact .of_passes (passes_waitForOutput b limit heeds) (by decide)
  | read marker limit =>
    exact evolves_answering _ ((evolves_readUntil b marker limit heeds).mono (by decide))
  | drain limit => exact evolves_answering _ ((evolves_drain b limit).mono (by decide))
  | send line =>
    have sent : Evolves Deed.orderly b _ := (evolves_sendLine b line).mono (by decide)
    simp only [perform]
    split <;> rename_i same <;> rw [same] at sent <;> exact sent
  | write text =>
    have written : Evolves Deed.orderly b _ := (evolves_write b text).mono (by decide)
    simp only [perform]
    split <;> rename_i same <;> rw [same] at written <;> exact written
  | kill signal => exact (evolves_kill b signal).mono (by decide)
  | signal name => exact (evolves_signal b name).mono (by decide)
  | finish => exact .of_step .finish (by decide)
  | awaitExit limit => exact .of_passes (passes_awaitExit b limit heeds) (by decide)
  | terminate grace logs => exact (evolves_forceTerminate b grace logs).mono (by decide)
  | script script alone =>
    exact evolves_answering _ ((evolves_runScript b script _ _).mono (by decide))
  | settle status timeouts alone =>
    exact evolves_answering _ ((evolves_settle b status timeouts _ _).mono (by decide))
  | advance span => exact .of_passes (passes_advance b span) (by decide)
  | happen timed => exact .of_passes (passes_begin b [timed]) (by decide)

/-- A raw record is the same as putting the unit in front and consuming it. -/
theorem evolves_record (b : Bench) (unit : String) :
    Evolves [.handle, .consume] b (b.record unit).1 := by
  cases state : b.session.transcript.isSealed with
  | false =>
    rw [record_of_open state]
    let c := b.withSession { b.session with pending := unit :: b.session.pending }
    have front : c.session.pending = (unit ++ "") :: b.session.pending := by
      rw [String.append_empty]; rfl
    have put : Evolves [.handle, .consume] b c := .of_step .handle (by simp)
    exact put.trans (.of_step (.consume front state) (by simp))
  | true => rw [record_of_sealed state]; exact .refl

/-- What a read does with a chunk is handling and consuming. -/
theorem evolves_recordChunk {b : Bench} {chunk : String} {session : Session}
    (taken : b.session.takeChunk = some (chunk, session)) :
    Evolves [.handle, .consume] b (b.recordChunk chunk session).1 := by
  obtain ⟨rest, _, rfl⟩ := takeChunk_eq_some taken
  have took : Evolves [.handle, .consume] b
      (b.withSession { b.session with pending := rest }) := .of_step .handle (by simp)
  exact took.trans (evolves_record _ chunk)

theorem evolves_recordMarked {b : Bench} {chunk : String} {session : Session}
    (taken : b.session.takeChunk = some (chunk, session)) (count : Nat) :
    Evolves [.handle, .consume, .prompt] b (b.recordMarked chunk session count).1 := by
  obtain ⟨rest, _, rfl⟩ := takeChunk_eq_some taken
  have took : Evolves [.handle, .consume, .prompt] b
      (b.withSession { b.session with pending := rest }) := .of_step .handle (by simp)
  have recorded := took.trans
    ((evolves_record _ (String.ofList (chunk.toList.take count))).mono (by simp))
  simp only [recordMarked]
  split <;> rename_i same <;> rw [same] at recorded
  · exact recorded
  · -- What is behind the marker goes back before the prompt is noted.
    refine recorded.trans (Evolves.trans ?_ (.of_step .prompt (by simp)))
    simp only [Session.pushBack]
    split
    · exact .refl
    · exact .of_step .handle (by simp)

theorem evolves_perform (b : Bench) (heeds : Bool) (call : Call) :
    Evolves Deed.all b (b.perform heeds call).1 := by
  cases keeps : call.keepsOutput with
  | true => exact (evolves_perform_orderly b heeds keeps).mono (by decide)
  | false =>
    cases call with
    | takeChunk =>
      simp only [perform]
      split
      · rename_i taken
        obtain ⟨rest, _, rfl⟩ := takeChunk_eq_some taken
        exact .of_step .handle (by decide)
      · exact .refl
    | pushBack text =>
      simp only [perform, Session.pushBack]
      split
      · exact .refl
      · exact .of_step .handle (by decide)
    | record unit => exact evolves_answering _ ((evolves_record b unit).mono (by decide))
    | _ => contradiction

theorem evolves_call_orderly (b : Bench) (heeds : Bool) {call : Call}
    (keeps : call.keepsOutput = true) : Evolves Deed.orderly b (b.call heeds call).1 :=
  (evolves_perform_orderly b heeds keeps).trans (.of_passes (passes_rest _) (by decide))

theorem evolves_call (b : Bench) (heeds : Bool) (call : Call) :
    Evolves Deed.all b (b.call heeds call).1 :=
  (evolves_perform b heeds call).trans (.of_passes (passes_rest _) (by decide))

theorem evolves_calls_orderly (b : Bench) {calls : List (Bool × Call)}
    (keeps : ∀ call ∈ calls, call.2.keepsOutput = true) :
    Evolves Deed.orderly b (b.calls calls) := by
  induction calls generalizing b with
  | nil => exact .refl
  | cons first rest ih =>
    obtain ⟨heeds, call⟩ := first
    have here := evolves_call_orderly b heeds (keeps (heeds, call) List.mem_cons_self)
    exact here.trans (ih _ fun other member => keeps other (List.mem_cons_of_mem _ member))

theorem evolves_calls (b : Bench) (calls : List (Bool × Call)) :
    Evolves Deed.all b (b.calls calls) := by
  induction calls generalizing b with
  | nil => exact .refl
  | cons first rest ih => exact (evolves_call b first.1 first.2).trans (ih _)

end Bench

end ConsoleHarness
