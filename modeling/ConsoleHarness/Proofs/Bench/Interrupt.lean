import ConsoleHarness.Proofs.Bench.Exchange
import ConsoleHarness.Proofs.Bench.Handshake

/-! # Scripts that are interrupted

A run may be cancelled whenever something takes place outside of the program, also inside a call.  A
script looks at the cancellation at a few places only: before each chunk of a read, and behind the
pause after each line.  That is enough as long as whoever is called between a look and the next
text, a mirror or a logger, does not cancel the run.  Here nobody is; scripts among callbacks are
looked at on top of this (`Minds`).

`Bench.Obeys` is what every call of a script keeps, and a call after which the script goes on leaves
a run that is not cancelled.
-/

namespace ConsoleHarness

/-- Nothing is handed over any more once the run is cancelled. -/
def Obedient (before : List Entry) (event : Event) : Prop :=
  ∀ text accepted, event = .wrote text accepted → ∀ entry ∈ before, entry.event ≠ .aborted

namespace Bench

/-- The run is cancelled if and only if its cancellation has happened. -/
def Heard (b : Bench) : Prop := b.aborted = true ↔ b.Saw .aborted

/-- The run knows whether it is cancelled, and has handed over nothing since. -/
structure Obeys (b : Bench) : Prop where
  heard : b.Heard
  obedient : Throughout Obedient b.history

section Steps

variable {deed : Deed} {deeds : List Deed} {b c : Bench}

theorem Step.heard (step : Step deed b c) (heard : b.Heard) : c.Heard := by
  by_cases outside : deed = .world
  · subst outside
    cases step with
    | alike same => rwa [Heard, Saw, history, same.aborted, same.journal]
    | abort => simp [Heard, Saw]
    | arrive | close | exit | pause =>
      simpa [Heard, Saw, history, note, notePause, withSession] using heard
  · rw [Heard, step.aborted_eq outside, step.saw_iff (Ne.symm outside : Event.aborted.deed ≠ deed)]
    exact heard

theorem Evolves.heard (evolves : Evolves deeds b c) (heard : b.Heard) : c.Heard :=
  evolves.invariant Heard (fun _ _ _ _ step => step.heard) heard

theorem heard_launched (target : Target) : Heard { target } := by simp [Heard, Saw, history]

theorem Heard.peaceful (heard : b.Heard) (running : b.aborted = false) :
    ∀ entry ∈ b.history, entry.event ≠ .aborted := by
  intro entry member same
  have cancelled := heard.mpr ⟨entry, member, same⟩
  rw [running] at cancelled
  contradiction

theorem Obeys.aside (obeys : Obeys b) (evolves : Evolves deeds b c) (unwritten : .write ∉ deeds) :
    Obeys c where
  heard := evolves.heard obeys.heard
  obedient := by
    refine evolves.throughout (fun before event kind => ?_) obeys.obedient
    rintro text accepted rfl
    exact absurd kind unwritten

end Steps

/-! ## The calls of a script -/

section Calls

variable {script : Script} {heeds logs : Bool} {b c : Bench}

theorem Obeys.write (obeys : Obeys b) (running : b.aborted = false) (text : String) :
    Obeys (b.write text).1 := by
  have hand {n : Bench} {accepted : Bool} (step : Step .write b n)
      (noted : n.history = b.history ++ [⟨b.clock, .wrote text accepted⟩]) : Obeys n := by
    refine ⟨step.heard obeys.heard, ?_⟩
    rw [noted]
    exact obeys.obedient.concat fun _ _ _ => obeys.heard.peaceful running
  have writes := write_writesTo b text
  generalize b.write text = result at writes
  cases writes with
  | refused step noted => exact hand step noted
  | failed step noted passes => exact (hand step noted).aside passes (by simp)
  | @completed n m step noted passes =>
    have flushed : Obeys m := (hand step noted).aside passes (by simp)
    have last : Step .write m (m.note (.written text)) := .complete
    refine ⟨last.heard flushed.heard, ?_⟩
    rw [history_note]
    exact flushed.obedient.concat fun _ _ other => by cases other

theorem Obeys.sendLine (obeys : Obeys b) (running : b.aborted = false) (line : String) :
    Obeys (b.sendLine line).1 := by
  simp only [Bench.sendLine]
  split
  · exact obeys
  · rename_i session _
    have front : Obeys (b.withSession session) := ⟨obeys.heard, obeys.obedient⟩
    have written := front.write running (line ++ "\n")
    split <;> rename_i same <;> rw [same] at written <;> exact written

theorem Obeys.sendScripted (obeys : Obeys b) (running : b.aborted = false) (script : Script)
    (line : String) (heeds logs : Bool) :
    Obeys (b.sendScripted script line heeds logs).1 := by
  have logged := evolves_log b logs .info s!"Sending '{line}' command..."
  have sent := (obeys.aside logged (by simp)).sendLine
    ((logged.aborted_eq (by simp)).trans running) line
  simp only [Bench.sendScripted]
  split <;> rename_i same <;> rw [same] at sent
  · exact sent
  · exact sent
  · exact sent.aside (passes_settleDelay _ script.settle heeds) (by simp)

/-- What a script reports of a line tells of a cancellation, and a line without an incident was sent
in a run that goes on. -/
theorem sendScripted_heeds {line : String} {report : SendReport}
    (done : b.sendScripted script line heeds logs = (c, .ok report)) :
    (report.incident = none → (heeds && c.aborted) = false) ∧
      ∀ incident, report.incident = some incident →
        (∃ reason, incident = .writeFailed line reason) ∨
          (incident = .interruptedAfter line ∧ (heeds && c.aborted) = true) := by
  rw [Bench.sendScripted] at done
  split at done
  · simp at done
  · obtain ⟨rfl, same⟩ := Prod.mk.inj done
    obtain rfl := Except.ok.inj same
    refine ⟨by simp, fun incident told => .inl ⟨_, (Option.some.inj told).symm⟩⟩
  · obtain ⟨rfl, same⟩ := Prod.mk.inj done
    obtain rfl := Except.ok.inj same
    rename_i m _
    cases cancelled : heeds && (m.settleDelay script.settle heeds).aborted with
    | true => exact ⟨by simp, fun incident told => .inr ⟨(Option.some.inj told).symm, rfl⟩⟩
    | false => exact ⟨fun _ => rfl, by simp⟩

/-- A read that finds its marker has looked at the cancellation before, and nothing has passed since
then. -/
theorem readLoop_heeds {marker : List Char} {deadline : Millis} {window : List Char}
    {text more : String}
    (done : readLoop marker deadline heeds window text b = (c, .ok (.marker, more))) :
    (heeds && c.aborted) = false := by
  fun_induction readLoop marker deadline heeds window text b with
  | case1 | case2 | case4 | case6 | case7 => simp at done
  | case3 window text b unheeded chunk session taken count inside after unit recorded =>
    obtain ⟨rfl, _⟩ := Prod.mk.inj done
    have kept := (evolves_recordMarked taken count).aborted_eq (by simp)
    rw [recorded] at kept
    rw [kept]
    simpa using unheeded
  | case5 window text b _ chunk session taken passed recorded ih => exact ih done
  | case8 window text b _ taken _ _ ih => exact ih done

theorem readUntil_heeds {marker : String} {limit : Millis} {reading : Reading}
    (done : b.readUntil marker limit heeds = (c, .ok reading)) :
    (reading.found = true → (heeds && c.aborted) = false) ∧
      (reading.reason = .interrupted → c.aborted = true) := by
  have filled : marker ≠ "" := by
    rintro rfl
    simp [readUntil] at done
  obtain ⟨m, more, consumes, ⟨elapsed, other, -⟩ | ⟨reason, elapsed, other, -, due⟩ | ⟨other, -⟩⟩ :=
    readUntil_spec b filled limit heeds
  · obtain ⟨rfl, same⟩ := Prod.mk.inj (other.symm.trans done)
    obtain rfl := Except.ok.inj same
    refine ⟨fun _ => ?_, fun wrong => by contradiction⟩
    simp only [readUntil] at done
    split at done
    · simp at done
    · split at done
      · simp at done
      · rename_i text read
        obtain ⟨rfl, same⟩ := Prod.mk.inj done
        obtain ⟨rfl, -, -⟩ := Reading.mk.inj (Except.ok.inj same)
        exact readLoop_heeds read
  · obtain ⟨rfl, same⟩ := Prod.mk.inj (other.symm.trans done)
    obtain rfl := Except.ok.inj same
    cases reason with
    | marker => exact due.elim
    | interrupted => exact ⟨fun wrong => by contradiction, fun _ => due.2⟩
    | timeout | closed => exact ⟨fun wrong => by contradiction, fun wrong => by contradiction⟩
  · rw [other] at done
    simp at done

theorem readUntil_of_aborted (cancelled : b.aborted = true) {marker : String}
    (filled : marker ≠ "") (limit : Millis) :
    b.readUntil marker limit true =
      (b, .ok { reason := .interrupted, text := "", elapsed := b.clock - b.clock }) := by
  rw [readUntil, if_neg (by simpa using filled), readLoop, dif_pos (by simp [cancelled])]

theorem Finds.undisturbed (finds : Finds script heeds b c) : (heeds && c.aborted) = false := by
  obtain ⟨done, found⟩ := finds
  exact (readUntil_heeds done).1 found

theorem running_of_advances (running : b.aborted = false)
    (advances : Advances script true logs b c) : c.aborted = false := by
  cases advances with
  | refl => exact running
  | tail _ last =>
    cases last with
    | read finds => simpa using finds.undisturbed
    | send done quiet => simpa using (sendScripted_heeds done).1 quiet

theorem Obeys.advances (obeys : Obeys b) (running : b.aborted = false)
    (advances : Advances script true logs b c) : Obeys c := by
  -- A call after which the script goes on was not cancelled, so the next one may hand over.
  induction advances with
  | refl => exact obeys
  | tail onward last ih =>
    cases last with
    | read finds =>
      obtain ⟨done, _⟩ := finds
      exact ih.aside (evolves_of_read done) (by simp)
    | @send line _ done quiet =>
      have sent := ih.sendScripted (running_of_advances running onward) script line true logs
      rw [done] at sent
      exact sent

end Calls

/-! ## Whole scripts -/

/-- What a script tells of its end at `c`: it completed in a run that goes on, or it was stopped,
by a cancellation only if there was one. -/
inductive Concludes (c : Bench) : ScriptOutcome → Prop
  | completed {sent} (running : c.aborted = false) : Concludes c ⟨.completed, sent, []⟩
  | stopped {sent incident}
      (kind : incident.kind ∈ [.interrupted, .bootTimeout, .promptTimeout, .streamClosed])
      (told : incident.kind = .interrupted → c.aborted = true) :
      Concludes c (.stopped sent incident)

theorem status_stopped_eq_interrupted (sent : List String) (incident : Incident) :
    (ScriptOutcome.stopped sent incident).status = .interrupted ↔ incident.kind = .interrupted := by
  simp only [ScriptOutcome.stopped]
  split
  · rename_i same
    exact iff_of_true rfl same
  · rename_i other
    exact iff_of_false (by simp) other

theorem Concludes.running {c : Bench} {outcome : ScriptOutcome} (concludes : Concludes c outcome)
    (completed : outcome.status = .completed) : c.aborted = false := by
  cases concludes with
  | completed running => exact running
  | stopped => exact absurd completed (status_stopped_ne _ _)

theorem Concludes.cancelled {c : Bench} {outcome : ScriptOutcome} (concludes : Concludes c outcome)
    (interrupted : outcome.status = .interrupted) : c.aborted = true := by
  cases concludes with
  | completed => contradiction
  | stopped kind told => exact told ((status_stopped_eq_interrupted _ _).mp interrupted)

section Scripts

variable {script : Script} {logs : Bool} {b c : Bench}

theorem Obeys.stop (obeys : Obeys c) (sent : List String) (incident : Incident) :
    Obeys (c.stopScript logs sent incident).1 := by
  have logged : Evolves [.tell] c (c.stopScript logs sent incident).1 := evolves_log _ _ _ _
  exact obeys.aside logged (by simp)

theorem concludes_stop {sent : List String} {incident : Incident}
    (kind : incident.kind ∈ [.interrupted, .bootTimeout, .promptTimeout, .streamClosed])
    (told : incident.kind = .interrupted → c.aborted = true) :
    Concludes (c.stopScript logs sent incident).1 (c.stopScript logs sent incident).2 := by
  have logged : Evolves [.tell] c (c.stopScript logs sent incident).1 := evolves_log _ _ _ _
  refine .stopped kind ?_
  rw [logged.aborted_eq (by simp)]
  exact told

theorem Obeys.misses (obeys : Obeys b) {result : Bench × Except Fault ScriptOutcome}
    (misses : Misses script true logs b result) :
    Obeys result.1 ∧ ∀ outcome, result.2 = .ok outcome → Concludes result.1 outcome := by
  cases misses with
  | unread done => exact ⟨obeys.aside (evolves_of_read done) (by simp), by simp⟩
  | @missed m limit reading phase sent done missing =>
    have read := obeys.aside (evolves_of_read done) (by simp)
    refine ⟨read.stop sent _, fun outcome same => ?_⟩
    obtain rfl := Except.ok.inj same
    have heeds := (readUntil_heeds done).2
    -- What is reported of the read is an interruption only if that ended it.
    cases ended : reading.reason with
    | marker => simp [Reading.found, ended] at missing
    | interrupted =>
      exact concludes_stop (by simp [ReadEnd.miss, Incident.kind]) fun _ => heeds ended
    | closed =>
      exact concludes_stop (by simp [ReadEnd.miss, Incident.kind]) fun wrong => by contradiction
    | timeout =>
      cases phase <;>
        exact concludes_stop (by simp [ReadEnd.miss, Incident.kind]) fun wrong => by contradiction

theorem Obeys.halts (obeys : Obeys b) (running : b.aborted = false)
    {result : Bench × Except Fault ScriptOutcome} (halts : Halts script true logs b result) :
    Obeys result.1 ∧ ∀ outcome, result.2 = .ok outcome → Concludes result.1 outcome := by
  have sends {m : Bench} {line : String} {answer : Except Fault SendReport}
      (done : b.sendScripted script line true logs = (m, answer)) : Obeys m := by
    have sent := obeys.sendScripted running script line true logs
    rw [done] at sent
    exact sent
  cases halts with
  | completed =>
    refine ⟨obeys, fun outcome same => ?_⟩
    obtain rfl := Except.ok.inj same
    exact .completed running
  | read misses => exact obeys.misses misses
  | unsent done => exact ⟨sends done, by simp⟩
  | @struck m line report incident sent done loud =>
    refine ⟨(sends done).stop sent incident, fun outcome same => ?_⟩
    obtain rfl := Except.ok.inj same
    rcases (sendScripted_heeds done).2 incident loud with ⟨reason, rfl⟩ | ⟨rfl, cancelled⟩
    · exact concludes_stop (by simp [Incident.kind]) fun wrong => by contradiction
    · exact concludes_stop (by simp [Incident.kind]) fun _ => by simpa using cancelled

/-- A script that is given the run's signal hands nothing over once that is aborted, and tells the
truth about it in the end. -/
theorem Obeys.runScript (obeys : Obeys b) (script : Script) (logs : Bool) :
    Obeys (b.runScript script true logs).1 ∧
      ∀ outcome, (b.runScript script true logs).2 = .ok outcome →
        Concludes (b.runScript script true logs).1 outcome := by
  have logged : Evolves [.tell] b (b.log logs .info "Waiting for shell...") := evolves_log _ _ _ _
  have begun := obeys.aside logged (by simp)
  rcases runScript_halts b script true logs with missed | ⟨m, n, finds, onward, ends⟩
  · exact begun.misses missed
  · have calm : m.aborted = false := by simpa using finds.undisturbed
    obtain ⟨done, _⟩ := finds
    have read := begun.aside (evolves_of_read done) (by simp)
    exact (read.advances calm onward).halts (running_of_advances calm onward) ends

end Scripts

end Bench

end ConsoleHarness
