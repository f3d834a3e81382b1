import ConsoleHarness.Proofs.Bench.Waits

/-! # What the program is made of

Everything that the program does is made of three things: what happens by itself, deeds that are
nobody's business who waits, and timed pauses that nothing has ended before they began
(`Bench.Going`).  Each of them
leaves the registry with no pause open that it opened (`Bench.Goes.releases`), and the surroundings
of the run as they were (`Bench.Goes.steady`).
-/

namespace ConsoleHarness.Bench

variable {b c d : Bench}

/-- One step of a bench, with each pause as a whole. -/
inductive Going : Bench → Bench → Prop
  | happening {b c : Bench} (happening : Happening b c) : Going b c
  | apart {b c : Bench} (registry : c.registry = b.registry) (route : c.route = b.route)
      (outside : c.outside = b.outside) : Going b c
  | pause {b : Bench} {w : Wait} (timed : w.timer.isSome = true)
      (asleep : (w.exit && b.wire.exit.isSome) = true ∨ b.woken w = none) : Going b (b.pause w).1

/-- `c` comes from `b` with every pause in between over. -/
abbrev Goes : Bench → Bench → Prop := Relation.ReflTransGen Going

/-! ## The surroundings -/

/-- The cancellation of the run is looked for where it was, and whoever else listens there still
does.  The run itself may have stopped listening. -/
structure Steady (b c : Bench) : Prop where
  route : c.route = b.route
  interrupts : c.outside.interrupts = b.outside.interrupts
  others : c.outside.listeners.filter (· ≠ .run) = b.outside.listeners.filter (· ≠ .run)
  own : c.outside.listeners.count .run ≤ b.outside.listeners.count .run

namespace Steady

theorem of_eq (route : c.route = b.route) (outside : c.outside = b.outside) : Steady b c :=
  ⟨route, by rw [outside], by rw [outside], by rw [outside]⟩

theorem refl (b : Bench) : Steady b b := .of_eq rfl rfl

theorem trans (first : Steady b c) (second : Steady c d) : Steady b d where
  route := second.route.trans first.route
  interrupts := second.interrupts.trans first.interrupts
  others := second.others.trans first.others
  own := second.own.trans first.own

theorem of_happening (happening : Happening b c) : Steady b c := by
  cases happening with
  | aside _ _ _ route outside => exact .of_eq route outside
  | abort running =>
    exact ⟨rfl, rfl, Registry.filter_erase_of_neg (by simp) _, List.erase_sublist.count_le _⟩
  | _ => exact .of_eq rfl rfl

theorem of_happens (happens : Happens b c) : Steady b c := by
  induction happens with
  | refl => exact .refl b
  | tail _ last ih => exact ih.trans (of_happening last)

end Steady

theorem steady_pause (b : Bench) (w : Wait) : Steady b (b.pause w).1 := by
  unfold pause
  generalize w.timer.map _ = due
  have registered : Steady b (b.register w due) := .of_eq rfl rfl
  have ready : Steady b (b.register w due).tick.notePause :=
    registered.trans (.of_happens ((happens_tick _).trans (happens_notePause _)))
  -- The registrations at both ends of the pause are nobody else's business.
  refine Steady.trans (c := (pauseBody (b.register w due) w due).1) ?_ (.of_eq rfl rfl)
  unfold pauseBody
  split
  · exact .of_eq rfl rfl
  · dsimp only
    split
    · exact ready
    · exact ready.trans (.of_happens (happens_runAgenda _ _ _ _))

theorem Step.surroundings {deed : Deed} (step : Step deed b c) (indoors : deed ≠ .world) :
    c.registry = b.registry ∧ c.route = b.route ∧ c.outside = b.outside := by
  cases step with
  | alike | arrive | close | exit | abort | pause => contradiction
  | _ => exact ⟨rfl, rfl, rfl⟩

namespace Goes

theorem of_happens (happens : Happens b c) : Goes b c :=
  Relation.ReflTransGen.mono (fun _ _ => .happening) b c happens

theorem apart (registry : c.registry = b.registry) (route : c.route = b.route)
    (outside : c.outside = b.outside) : Goes b c :=
  Relation.ReflTransGen.single (.apart registry route outside)

theorem of_evolves {deeds : List Deed} (evolves : Evolves deeds b c) (indoors : .world ∉ deeds) :
    Goes b c := by
  refine Relation.ReflTransGen.mono ?_ b c evolves
  rintro b c ⟨deed, member, step⟩
  obtain ⟨registry, route, outside⟩ := step.surroundings (ne_of_mem_of_not_mem member indoors)
  exact .apart registry route outside

theorem of_pause {w : Wait} (timed : w.timer.isSome = true)
    (asleep : (w.exit && b.wire.exit.isSome) = true ∨ b.woken w = none) : Goes b (b.pause w).1 :=
  Relation.ReflTransGen.single (.pause timed asleep)

theorem releases (goes : Goes b c) (orderly : b.registry.Orderly) :
    b.registry.Releases c.registry := by
  induction goes with
  | refl => exact .refl orderly
  | tail _ last ih =>
    refine ih.trans ?_
    cases last with
    | happening happening => exact happening.releases ih.orderly
    | apart registry => rw [registry]; exact .refl ih.orderly
    | pause timed asleep => exact releases_pause ih.orderly timed asleep

theorem steady (goes : Goes b c) : Steady b c := by
  induction goes with
  | refl => exact .refl b
  | tail _ last ih =>
    refine ih.trans ?_
    cases last with
    | happening happening => exact .of_happening happening
    | apart _ route outside => exact .of_eq route outside
    | pause => exact steady_pause _ _

end Goes

/-! ## Waits -/

theorem goes_waitForOutput (b : Bench) (limit : Millis) (heeds : Bool) :
    Goes b (b.waitForOutput limit heeds) := by
  unfold waitForOutput
  split
  · exact .refl
  · rename_i blocked
    simp only [Bool.or_eq_true, not_or, Bool.not_eq_true] at blocked
    obtain ⟨⟨⟨empty, opened⟩, unheeded⟩, -⟩ := blocked
    exact Goes.of_pause rfl (.inr (by simp [woken, empty, opened, unheeded]))

theorem goes_settleDelay (b : Bench) (span : Millis) (heeds : Bool) :
    Goes b (b.settleDelay span heeds) := by
  unfold settleDelay
  split
  · exact .refl
  · rename_i blocked
    simp only [Bool.or_eq_true, not_or, Bool.not_eq_true] at blocked
    exact Goes.of_pause rfl (.inr (by simp [woken, blocked.2]))

theorem goes_awaitExit (b : Bench) (limit : Millis) (heeds : Bool) :
    Goes b (b.awaitExit limit heeds).1 := by
  unfold awaitExit
  split
  · exact .refl
  · split
    · exact .refl
    · rename_i unheeded
      have paused : Goes b (b.pause
          { timer := some (Timer.delay (if limit ≤ 0 then 0 else limit)), exit := true,
            abort := heeds }).1 := by
        apply Goes.of_pause rfl
        -- The exit may be there although the session does not know of it yet.
        cases exited : b.wire.exit with
        | some exit => exact .inl rfl
        | none => exact .inr (by simpa [woken, exited] using unheeded)
      dsimp only
      split <;> rename_i same <;> rw [same] at paused <;> exact paused

/-! ## Reads -/

theorem goes_recordChunk {chunk : String} {session : Session}
    (taken : b.session.takeChunk = some (chunk, session)) :
    Goes b (b.recordChunk chunk session).1 :=
  Goes.of_evolves (evolves_recordChunk taken) (by simp)

theorem goes_readLoop (marker : List Char) (deadline : Millis) (heeds : Bool)
    (window : List Char) (text : String) (b : Bench) :
    Goes b (readLoop marker deadline heeds window text b).1 := by
  fun_induction readLoop marker deadline heeds window text b with
  | case1 | case6 | case7 => exact .refl
  | case2 window text b _ chunk session taken count _ after fault recorded
  | case3 window text b _ chunk session taken count _ after unit recorded =>
    have marked := Goes.of_evolves (evolves_recordMarked taken count) (by simp)
    rw [recorded] at marked
    exact marked
  | case4 window text b _ chunk session taken => exact goes_recordChunk taken
  | case5 window text b _ chunk session taken _ _ ih => exact (goes_recordChunk taken).trans ih
  | case8 window text b _ _ _ _ ih => exact (goes_waitForOutput b _ heeds).trans ih

theorem goes_readUntil (b : Bench) (marker : String) (limit : Millis) (heeds : Bool) :
    Goes b (b.readUntil marker limit heeds).1 := by
  have loop := goes_readLoop marker.toList (b.clock + limit) heeds [] "" b
  unfold readUntil
  split
  · exact .refl
  · split <;> rename_i same <;> rw [same] at loop <;> exact loop

theorem goes_drainLoop (deadline : Millis) (text : String) (b : Bench) :
    Goes b (drainLoop deadline text b).1 := by
  fun_induction drainLoop deadline text b with
  | case1 text b chunk session taken => exact goes_recordChunk taken
  | case2 text b chunk session taken _ ih => exact (goes_recordChunk taken).trans ih
  | case3 | case4 => exact .refl
  | case5 text b _ _ _ ih => exact (goes_waitForOutput b _ false).trans ih

theorem goes_drain (b : Bench) (limit : Millis) : Goes b (b.drain limit).1 :=
  goes_drainLoop (b.clock + limit) "" b

/-! ## Requests -/

theorem goes_log (b : Bench) (logs : Bool) (level : LogLevel) (message : String) :
    Goes b (b.log logs level message) :=
  Goes.of_evolves (evolves_log b logs level message) (by simp)

theorem goes_start (b : Bench) : Goes b b.start.1 := by
  unfold start Session.start
  split
  · exact .refl
  · rename_i session started
    split at started
    · exact Goes.apart rfl rfl rfl
    · contradiction

theorem goes_write (b : Bench) (text : String) : Goes b (b.write text).1 := by
  unfold write
  dsimp only
  split
  · exact Goes.apart rfl rfl rfl
  · have handed : Goes b (({ b with attempts := b.attempts + 1 } : Bench).accept text) :=
      (Goes.apart (by rfl) (by rfl) (by rfl)).trans (Goes.of_happens (happens_begin _ _))
    have flushed := fun after => handed.trans (Goes.of_happens (happens_flush _ after))
    unfold complete
    split
    · exact (flushed _).trans (Goes.apart rfl rfl rfl)
    · exact flushed _

theorem goes_sendLine (b : Bench) (line : String) : Goes b (b.sendLine line).1 := by
  unfold sendLine
  split
  · exact .refl
  · rename_i session claimed
    have written : Goes b ((b.withSession session).write (line ++ "\n")).1 :=
      (Goes.apart (by rfl) (by rfl) (by rfl)).trans (goes_write _ _)
    split <;> rename_i same <;> rw [same] at written <;> exact written

theorem goes_signal (b : Bench) (name : String) : Goes b (b.signal name).1 := by
  unfold signal
  dsimp only
  split
  · exact Goes.apart rfl rfl rfl
  · exact (Goes.apart (by rfl) (by rfl) (by rfl)).trans (Goes.of_happens (happens_begin _ _))

theorem goes_kill (b : Bench) (name : String) : Goes b (b.kill name).1 := by
  have sent := goes_signal b name
  unfold kill
  split
  · rename_i c same
    rw [same] at sent
    exact sent.trans (Goes.apart rfl rfl rfl)
  · rename_i c same
    rw [same] at sent
    exact sent

/-! ## Scripts -/

theorem goes_sendScripted (b : Bench) (script : Script) (line : String) (heeds logs : Bool) :
    Goes b (b.sendScripted script line heeds logs).1 := by
  have sent := (goes_log b logs .info s!"Sending '{line}' command...").trans (goes_sendLine _ line)
  unfold sendScripted
  split
  · rename_i same; rw [same] at sent; exact sent
  · rename_i same; rw [same] at sent; exact sent
  · rename_i same
    rw [same] at sent
    exact sent.trans (goes_settleDelay _ _ _)

section Exchange

variable {script : Script} {heeds logs : Bool}

theorem goes_of_read {marker : String} {limit : Millis} {result : Except Fault Reading}
    (done : b.readUntil marker limit heeds = (c, result)) : Goes b c := by
  have read := goes_readUntil b marker limit heeds
  rw [done] at read
  exact read

theorem goes_of_send {line : String} {result : Except Fault SendReport}
    (done : b.sendScripted script line heeds logs = (c, result)) : Goes b c := by
  have sent := goes_sendScripted b script line heeds logs
  rw [done] at sent
  exact sent

theorem Advances.goes (advances : Advances script heeds logs b c) : Goes b c := by
  induction advances with
  | refl => exact .refl
  | tail _ last ih =>
    refine ih.trans ?_
    cases last with
    | read finds =>
      obtain ⟨done, _⟩ := finds
      exact goes_of_read done
    | send done _ => exact goes_of_send done

theorem Misses.goes {result : Bench × Except Fault ScriptOutcome}
    (misses : Misses script heeds logs b result) : Goes b result.1 := by
  cases misses with
  | missed done _ => exact (goes_of_read done).trans (goes_log _ _ _ _)
  | unread done => exact goes_of_read done

theorem Halts.goes {result : Bench × Except Fault ScriptOutcome}
    (halts : Halts script heeds logs b result) : Goes b result.1 := by
  cases halts with
  | completed => exact .refl
  | read misses => exact misses.goes
  | struck done _ => exact (goes_of_send done).trans (goes_log _ _ _ _)
  | unsent done => exact goes_of_send done

end Exchange

theorem goes_runScript (b : Bench) (script : Script) (heeds logs : Bool) :
    Goes b (b.runScript script heeds logs).1 := by
  refine (goes_log b logs .info "Waiting for shell...").trans ?_
  rcases runScript_halts b script heeds logs with misses | ⟨c, m, ⟨read, _⟩, advances, halts⟩
  · exact misses.goes
  · exact ((goes_of_read read).trans advances.goes).trans halts.goes

/-! ## The end of a session -/

theorem goes_forceTerminate (b : Bench) (grace : Millis) (logs : Bool) :
    Goes b (b.forceTerminate grace logs).1 := by
  have waited := (goes_kill b "SIGKILL").trans (goes_awaitExit _ grace false)
  unfold forceTerminate
  split
  · exact .refl
  · dsimp only
    split
    · rename_i same; rw [same] at waited; exact waited
    all_goals
      rename_i same
      rw [same] at waited
      exact waited.trans (goes_log _ _ _ _)

theorem goes_endForcibly (b : Bench) (incident : Incident) (grace : Millis) (logs : Bool) :
    Goes b (b.endForcibly incident grace logs).1 :=
  (goes_log _ _ _ _).trans (goes_forceTerminate _ _ _)

theorem goes_dismiss (b : Bench) (status : ScriptStatus) (timeouts : Timeouts)
    (heeds logs : Bool) : Goes b (b.dismiss status timeouts heeds logs).1 := by
  cases status with
  | completed =>
    have waited := goes_awaitExit b timeouts.exit heeds
    unfold dismiss
    dsimp only
    split
    · rename_i same; rw [same] at waited; exact waited
    all_goals
      rename_i same
      rw [same] at waited
      exact waited.trans (goes_endForcibly _ _ _ _)
  | aborted | interrupted => exact (goes_log _ _ _ _).trans (goes_forceTerminate _ _ _)

theorem goes_settle (b : Bench) (status : ScriptStatus) (timeouts : Timeouts)
    (heeds logs : Bool) : Goes b (b.settle status timeouts heeds logs).1 := by
  have drained := (goes_dismiss b status timeouts heeds logs).trans (goes_drain _ timeouts.drain)
  unfold settle
  dsimp only
  split
  · rename_i same; rw [same] at drained; exact drained
  · rename_i same
    rw [same] at drained
    exact drained.trans (Goes.apart rfl rfl rfl)

/-! ## Calls -/

theorem goes_answering {α : Type} (give : α → Answer) {result : Bench × Except Fault α}
    (goes : Goes b result.1) : Goes b (answering give result).1 := by
  unfold answering
  split
  · exact goes
  · exact goes

theorem goes_perform (b : Bench) (heeds : Bool) (call : Call) :
    Goes b (b.perform heeds call).1 := by
  cases call with
  | start => exact goes_answering _ (goes_start b)
  | takeChunk =>
    simp only [perform]
    split
    · exact Goes.apart rfl rfl rfl
    · exact .refl
  | pushBack text | markPromptReady | sealTranscript | finish => exact Goes.apart rfl rfl rfl
  | record unit => exact goes_answering _ (Goes.of_evolves (evolves_record b unit) (by simp))
  | transcript | pid => exact .refl
  | waitForOutput limit => exact goes_waitForOutput b limit heeds
  | read marker limit => exact goes_answering _ (goes_readUntil b marker limit heeds)
  | drain limit => exact goes_answering _ (goes_drain b limit)
  | send line =>
    have sent := goes_sendLine b line
    simp only [perform]
    split <;> rename_i same <;> rw [same] at sent <;> exact sent
  | write text =>
    have written := goes_write b text
    simp only [perform]
    split <;> rename_i same <;> rw [same] at written <;> exact written
  | kill signal => exact goes_kill b signal
  | signal name => exact goes_signal b name
  | awaitExit limit => exact goes_awaitExit b limit heeds
  | terminate grace logs => exact goes_forceTerminate b grace logs
  | script script alone => exact goes_answering _ (goes_runScript b script _ _)
  | settle status timeouts alone => exact goes_answering _ (goes_settle b status timeouts _ _)
  | advance span => exact Goes.of_happens (happens_advance b span)
  | happen timed => exact Goes.of_happens (happens_begin b [timed])

theorem goes_calls (b : Bench) (calls : List (Bool × Call)) : Goes b (b.calls calls) := by
  induction calls generalizing b with
  | nil => exact .refl
  | cons first rest ih =>
    obtain ⟨heeds, call⟩ := first
    have here : Goes b (b.call heeds call).1 :=
      (goes_perform b heeds call).trans (Goes.of_happens (happens_rest _))
    exact here.trans (ih _)

end ConsoleHarness.Bench
