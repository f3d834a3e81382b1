import ConsoleHarness.Run.Callbacks
import ConsoleHarness.Proofs.Bench.Interrupt
import ConsoleHarness.Proofs.Bench.Clock

/-! # Callbacks that cancel

With callbacks that only take what they are given a script is the one without them.  Other callbacks
may cancel the run between the last look of a script at the cancellation and the next text that it
hands over.  That text goes out although the run is cancelled, and no other does (`SlipsOnce`):
behind it, or behind the next read, the script looks again.

`Bench.Poised` is what a script relies on when it hands something over: the run goes on, or it was
cancelled this very moment.
-/

namespace ConsoleHarness

/-- What is handed over behind a cancellation: nothing, or a single text at that very moment, with
nothing in between but a prompt or a line that is told. -/
inductive Slips (moment : Millis) : List Entry → Prop
  | nothing {after} (unhanded : handedIn after = []) : Slips moment after
  | one {told after text accepted} (brief : ∀ entry ∈ told, entry.event.deed ∈ [.prompt, .tell])
      (unhanded : handedIn after = []) :
      Slips moment (told ++ ⟨moment, .wrote text accepted⟩ :: after)

/-- At most one text is handed over once the run is cancelled. -/
def SlipsOnce (history : List Entry) : Prop :=
  ∀ before moment after, history = before ++ ⟨moment, .aborted⟩ :: after → Slips moment after

theorem Slips.append {moment : Millis} {after news : List Entry} (slips : Slips moment after)
    (unhanded : handedIn news = []) : Slips moment (after ++ news) := by
  cases slips with
  | nothing still => exact .nothing (by rw [handedIn_append, still, unhanded]; rfl)
  | one brief still =>
    rw [List.append_assoc, List.cons_append]
    exact .one brief (by rw [handedIn_append, still, unhanded]; rfl)

theorem SlipsOnce.append {history news : List Entry} (old : SlipsOnce history)
    (unhanded : handedIn news = []) : SlipsOnce (history ++ news) := by
  intro before moment after split
  rcases cut_append split with ⟨front, rfl⟩ | ⟨front, -, rfl⟩
  · -- The news come behind whatever slipped before.
    simp only [List.append_assoc, List.cons_append, List.append_cancel_left_eq,
      List.cons.injEq, true_and] at split
    rw [← split]
    exact (old before moment front rfl).append unhanded
  · rw [handedIn_append] at unhanded
    exact .nothing (List.append_eq_nil_iff.mp unhanded).2

namespace Bench

/-! ## Callbacks that take what they are given -/

section Receive

variable {callbacks : Callbacks} {heeds : Bool}

/-- There is one way to take what is given. -/
theorem eq_of_receive (receive : callbacks.Receive) : callbacks = {} := by
  obtain ⟨mirror, logger, jobs⟩ := callbacks
  obtain rfl : mirror = fun _ => false := funext receive.mirror
  obtain rfl : logger = fun _ => false := funext receive.logger
  obtain rfl : jobs = fun _ => false := funext receive.jobs
  rfl

theorem recordChunkWith_none (b : Bench) (chunk : String) (session : Session) :
    b.recordChunkWith {} chunk session = b.recordChunk chunk session := by
  rw [recordChunkWith]
  split <;> rename_i same <;> rw [same]
  rfl

theorem readLoopWith_none (marker : List Char) (deadline : Millis) (window : List Char)
    (text : String) (b : Bench) :
    readLoopWith {} marker deadline heeds window text b =
      readLoop marker deadline heeds window text b := by
  have marked (b : Bench) (chunk : String) (session : Session) (count : Nat) :
      b.recordMarkedWith {} chunk session count = b.recordMarked chunk session count := rfl
  have idle (b : Bench) : b.giveWay ({} : Callbacks).jobs = b := rfl
  fun_induction readLoop marker deadline heeds window text b with
  | _ =>
    -- The two loops look at the same things and so take the same branch.
    rw [readLoopWith]
    simp only [marked, recordChunkWith_none, idle]
    repeat' split
    all_goals simp_all

theorem readUntilWith_none (b : Bench) (marker : String) (limit : Millis) :
    b.readUntilWith {} marker limit heeds = b.readUntil marker limit heeds := by
  rw [readUntilWith, readLoopWith_none]
  rfl

theorem runCommandsWith_none (b : Bench) (script : Script) (logs : Bool)
    (sent commands : List String) :
    b.runCommandsWith {} script heeds logs sent commands =
      b.runCommands script heeds logs sent commands := by
  induction commands generalizing b sent with
  | nil => rfl
  | cons command rest ih =>
    simp only [runCommandsWith, readUntilWith_none, ih]
    rfl

theorem runScriptWith_eq (receive : callbacks.Receive) (b : Bench) (script : Script)
    (logs : Bool) : b.runScriptWith callbacks script heeds logs = b.runScript script heeds logs := by
  rw [eq_of_receive receive, runScriptWith, readUntilWith_none]
  simp only [runCommandsWith_none]
  rfl

end Receive

/-! ## One text at most -/

/-- The run knows whether it is cancelled, and at most one text has slipped out since. -/
structure Minds (b : Bench) : Prop where
  heard : b.Heard
  slips : SlipsOnce b.history

/-- The run was cancelled this very moment, and has done nothing since that took time. -/
def JustCancelled (b : Bench) : Prop :=
  ∃ before told, b.history = before ++ ⟨b.clock, .aborted⟩ :: told ∧
    (∀ entry ∈ before, entry.event ≠ .aborted) ∧
      ∀ entry ∈ told, entry.event.deed ∈ [.prompt, .tell]

/-- The run goes on, or was cancelled this very moment. -/
def Poised (b : Bench) : Prop := b.aborted = false ∨ b.JustCancelled

section Poised

variable {deeds : List Deed} {b c n : Bench} {text : String} {accepted : Bool}

theorem happens_giveWay (b : Bench) (cancels : Bench → Bool) : Happens b (b.giveWay cancels) := by
  unfold giveWay
  split
  · exact happens_interrupt b
  · exact .refl

theorem passes_giveWay (b : Bench) (cancels : Bench → Bool) : Passes b (b.giveWay cancels) :=
  (happens_giveWay b cancels).passes

theorem giveWay_cases (b : Bench) (cancels : Bench → Bool) :
    b.giveWay cancels = b ∨
      b.aborted = false ∧ (b.giveWay cancels).history = b.history ++ [⟨b.clock, .aborted⟩] := by
  unfold giveWay interrupt
  split
  · split
    · rename_i due
      simp only [Bool.and_eq_true, Bool.not_eq_true'] at due
      exact .inr ⟨due.2, by rw [history_note]; rfl⟩
    · exact .inl rfl
  · exact .inl rfl

theorem Minds.of_obeys (obeys : Obeys b) : Minds b where
  heard := obeys.heard
  slips := by
    intro before moment after split
    refine .nothing (List.filterMap_eq_nil_iff.mpr fun entry member => ?_)
    obtain ⟨front, behind, rfl⟩ := List.append_of_mem member
    -- A text behind the cancellation would stand in a history that has seen it.
    cases handed : entry.event with
    | wrote text accepted =>
      have calm := obeys.obedient (before ++ ⟨moment, .aborted⟩ :: front) entry behind
        (by rw [split]; simp) text accepted handed
      exact absurd rfl (calm ⟨moment, .aborted⟩ (by simp))
    | _ => rfl

/-- A run that is cancelled stays so. -/
theorem Evolves.cancelled (evolves : Evolves deeds b c) (heard : b.Heard)
    (cancelled : b.aborted = true) : c.aborted = true :=
  (evolves.heard heard).mpr (evolves.saw (heard.mp cancelled))

theorem Minds.aside (minds : Minds b) (evolves : Evolves deeds b c) (unwritten : .write ∉ deeds) :
    Minds c where
  heard := evolves.heard minds.heard
  slips := by
    obtain ⟨news, grown, -⟩ := evolves.news
    have same := evolves.handedIn_eq unwritten
    rw [grown, handedIn_append, List.append_right_eq_self] at same
    rw [grown]
    exact minds.slips.append same

theorem Poised.giveWay (poised : Poised b) (heard : b.Heard) (cancels : Bench → Bool) :
    Poised (b.giveWay cancels) := by
  rcases giveWay_cases b cancels with same | ⟨running, noted⟩
  · rwa [same]
  · exact .inr ⟨b.history, [], by rw [noted, clock_giveWay], heard.peaceful running, by simp⟩

theorem Poised.aside (poised : Poised b) (evolves : Evolves [.handle, .prompt, .tell] b c) :
    Poised c := by
  rcases poised with running | ⟨before, told, now, first, brief⟩
  · exact .inl ((evolves.aborted_eq (by simp)).trans running)
  · obtain ⟨news, grown, kinds⟩ := evolves.news
    refine .inr ⟨before, told ++ news, ?_, first, fun entry member => ?_⟩
    · rw [grown, now, evolves.clock_eq (by simp), List.append_assoc, List.cons_append]
    · rcases List.mem_append.mp member with old | new
      · exact brief entry old
      · -- Handling output leaves no trace in a history.
        have kind := kinds entry new
        cases event : entry.event <;> simp_all [Event.deed]

/-- A cancellation happens once. -/
theorem JustCancelled.unique {before after : List Entry} {moment : Millis} (just : b.JustCancelled)
    (split : b.history = before ++ ⟨moment, .aborted⟩ :: after) :
    moment = b.clock ∧ ∀ entry ∈ after, entry.event.deed ∈ [.prompt, .tell] := by
  obtain ⟨front, told, now, first, brief⟩ := just
  rw [now] at split
  rcases List.append_eq_append_iff.mp split with ⟨more, rfl, cut⟩ | ⟨more, rfl, cut⟩
  · cases more with
    | nil =>
      obtain ⟨same, rfl⟩ := List.cons.inj cut
      exact ⟨(Entry.mk.inj same).1.symm, brief⟩
    | cons entry more =>
      have told := brief ⟨moment, .aborted⟩ (by rw [(List.cons.inj cut).2]; simp)
      simp [Event.deed] at told
  · cases more with
    | nil =>
      obtain ⟨same, rfl⟩ := List.cons.inj cut
      exact ⟨(Entry.mk.inj same).1, brief⟩
    | cons entry more =>
      obtain ⟨rfl, -⟩ := List.cons.inj cut
      exact absurd rfl (first ⟨moment, .aborted⟩ (by simp))

/-- A text that is handed over by a script that is poised slips out at worst. -/
theorem Minds.hand (minds : Minds b) (poised : Poised b) (step : Step .write b n)
    (noted : n.history = b.history ++ [⟨b.clock, .wrote text accepted⟩]) : Minds n where
  heard := step.heard minds.heard
  slips := by
    intro before moment after split
    rw [noted] at split
    rcases cut_concat split with ⟨-, same⟩ | ⟨front, old⟩
    · simp at same
    · rcases poised with running | just
      · exact absurd rfl (minds.heard.peaceful running ⟨moment, .aborted⟩ (by rw [old]; simp))
      · obtain ⟨rfl, brief⟩ := just.unique old
        simp only [old, List.append_assoc, List.cons_append, List.append_cancel_left_eq,
          List.cons.injEq, true_and] at split
        rw [← split]
        exact .one brief rfl

end Poised

/-! ## The calls of a script -/

/-- What a read leaves behind: if it found its marker it has looked at the cancellation just before,
and if it calls itself interrupted there was one. -/
structure AfterRead {α : Type} (reason : α → ReadEnd) (b : Bench)
    (result : Bench × Except Fault α) : Prop where
  evolves : Evolves [.world, .handle, .consume, .prompt] b result.1
  marker : ∀ a, result.2 = .ok a → reason a = .marker → result.1.Poised
  interrupted : ∀ a, result.2 = .ok a → reason a = .interrupted → result.1.aborted = true

theorem AfterRead.behind {α : Type} {reason : α → ReadEnd} {b c : Bench}
    {result : Bench × Except Fault α} (read : AfterRead reason c result)
    (evolves : Evolves [.world, .handle, .consume, .prompt] b c) : AfterRead reason b result where
  evolves := evolves.trans read.evolves
  marker := read.marker
  interrupted := read.interrupted

section Reads

variable (callbacks : Callbacks) {b : Bench} {chunk : String} {session : Session}

theorem evolves_recordChunkWith (taken : b.session.takeChunk = some (chunk, session)) :
    Evolves [.world, .handle, .consume, .prompt] b
      (b.recordChunkWith callbacks chunk session).1 := by
  have recorded := evolves_recordChunk taken
  unfold recordChunkWith
  split <;> rename_i same <;> rw [same] at recorded
  · exact recorded.mono (by simp)
  · exact (recorded.mono (by simp)).trans (.of_passes (passes_giveWay _ _) (by simp))

theorem recordMarkedWith_spec (heard : b.Heard) (running : b.aborted = false)
    (taken : b.session.takeChunk = some (chunk, session)) (count : Nat) :
    Evolves [.world, .handle, .consume, .prompt] b
        (b.recordMarkedWith callbacks chunk session count).1 ∧
      ∀ unit, (b.recordMarkedWith callbacks chunk session count).2 = .ok unit →
        (b.recordMarkedWith callbacks chunk session count).1.Poised := by
  obtain ⟨rest, _, rfl⟩ := takeChunk_eq_some taken
  have took : Evolves [.handle, .consume] b
      (b.withSession { b.session with pending := rest }) := .of_step .handle (by simp)
  have recorded := took.trans (evolves_record _ (String.ofList (chunk.toList.take count)))
  simp only [recordMarkedWith]
  split <;> rename_i same <;> rw [same] at recorded
  · exact ⟨recorded.mono (by simp), by simp⟩
  · -- Nobody but the callback can cancel here, and what follows it takes no time.
    rename_i m
    have calm : m.aborted = false := (recorded.aborted_eq (by simp)).trans running
    have poised := Poised.giveWay (.inl calm) (recorded.heard heard) callbacks.mirror
    have mirrored := passes_giveWay m callbacks.mirror
    generalize m.giveWay callbacks.mirror = n at poised mirrored
    have returned : Evolves [.handle, .prompt] n
        (n.withSession (n.session.pushBack
          (String.ofList (chunk.toList.drop count)))).markPromptReady := by
      refine Evolves.trans ?_ (.of_step .prompt (by simp))
      simp only [Session.pushBack]
      split
      · exact .refl
      · exact .of_step .handle (by simp)
    refine ⟨?_, fun _ _ => poised.aside (returned.mono (by simp))⟩
    exact (recorded.mono (by simp)).trans
      ((mirrored.mono (by simp)).trans (returned.mono (by simp)))

theorem readLoopWith_afterRead (heard : b.Heard) (marker : List Char) (deadline : Millis)
    (window : List Char) (text : String) :
    AfterRead Prod.fst b (readLoopWith callbacks marker deadline true window text b) := by
  fun_induction readLoopWith callbacks marker deadline true window text b with
  | case1 window text b heeded => exact ⟨.refl, by simp, fun _ _ _ => by simpa using heeded⟩
  | case2 window text b unheeded chunk session taken count _ after fault refused =>
    have marked := recordMarkedWith_spec callbacks heard (by simpa using unheeded) taken count
    rw [refused] at marked
    exact ⟨marked.1, by simp, by simp⟩
  | case3 window text b unheeded chunk session taken count _ after unit recorded =>
    have marked := recordMarkedWith_spec callbacks heard (by simpa using unheeded) taken count
    rw [recorded] at marked
    exact ⟨marked.1, fun _ _ _ => marked.2 unit rfl, by simp⟩
  | case4 window text b _ chunk session taken _ fault refused =>
    exact ⟨evolves_recordChunkWith callbacks taken, by simp, by simp⟩
  | case5 window text b _ chunk session taken _ recorded ih =>
    have took := evolves_recordChunkWith callbacks taken
    exact (ih (took.heard heard)).behind took
  | case6 | case7 => exact ⟨.refl, by simp, by simp⟩
  | case8 window text b _ _ _ _ ih =>
    have waited := (passes_waitForOutput b (deadline - b.clock) true).trans
      (passes_giveWay _ callbacks.jobs)
    exact (ih (waited.heard heard)).behind (.of_passes waited (by simp))

theorem readUntilWith_afterRead (heard : b.Heard) (marker : String) (limit : Millis) :
    AfterRead Reading.reason b (b.readUntilWith callbacks marker limit true) := by
  have loop := readLoopWith_afterRead callbacks heard marker.toList (b.clock + limit) [] ""
  simp only [readUntilWith]
  split
  · exact ⟨.refl, by simp, by simp⟩
  · split <;> rename_i same <;> rw [same] at loop
    · exact ⟨loop.evolves, by simp, by simp⟩
    · rename_i m reason text
      refine ⟨loop.evolves.trans (.of_passes (passes_giveWay _ _) (by simp)), ?_, ?_⟩
      · rintro reading done found
        obtain rfl := Except.ok.inj done
        exact (loop.marker _ rfl found).giveWay (loop.evolves.heard heard) _
      · rintro reading done interrupted
        obtain rfl := Except.ok.inj done
        exact (passes_giveWay _ _).cancelled (loop.evolves.heard heard)
          (loop.interrupted _ rfl interrupted)

end Reads

section Sends

variable (callbacks : Callbacks) {b : Bench}

theorem Minds.write (minds : Minds b) (poised : Poised b) (text : String) :
    Minds (b.write text).1 := by
  have writes := write_writesTo b text
  generalize b.write text = result at writes
  cases writes with
  | refused step noted => exact minds.hand poised step noted
  | failed step noted passes => exact (minds.hand poised step noted).aside passes (by simp)
  | @completed n m step noted passes =>
    have flushed : Minds m := (minds.hand poised step noted).aside passes (by simp)
    have last : Step .write m (m.note (.written text)) := .complete
    refine ⟨last.heard flushed.heard, ?_⟩
    rw [history_note]
    exact flushed.slips.append rfl

theorem Minds.sendLine (minds : Minds b) (poised : Poised b) (line : String) :
    Minds (b.sendLine line).1 := by
  simp only [Bench.sendLine]
  split
  · exact minds
  · rename_i session _
    have front : Minds (b.withSession session) := ⟨minds.heard, minds.slips⟩
    have written := front.write poised (line ++ "\n")
    split <;> rename_i same <;> rw [same] at written <;> exact written

theorem evolves_logWith (b : Bench) (logs : Bool) (level : LogLevel) (message : String) :
    Evolves [.world, .tell] b (b.logWith callbacks logs level message) := by
  unfold logWith
  split
  · exact (Evolves.of_step .log (by simp)).trans (.of_passes (passes_giveWay _ _) (by simp))
  · exact .refl

theorem Poised.logWith (poised : Poised b) (heard : b.Heard) (logs : Bool) (level : LogLevel)
    (message : String) : Poised (b.logWith callbacks logs level message) := by
  unfold Bench.logWith
  split
  · have told : Evolves [.tell] b (b.note (.logged level message)) := .single .log
    exact (poised.aside (told.mono (by simp))).giveWay (told.heard heard) _
  · exact poised

/-- What sending a line leaves behind: the script goes on only if it looked at the cancellation just
before, and calls itself interrupted only if there was one. -/
structure AfterSend (line : String) (b : Bench) (result : Bench × Except Fault SendReport) :
    Prop where
  evolves : Evolves [.world, .write, .tell] b result.1
  minds : Minds result.1
  quiet : ∀ report, result.2 = .ok report → report.incident = none → result.1.Poised
  loud : ∀ report, result.2 = .ok report → ∀ incident, report.incident = some incident →
    (∃ reason, incident = .writeFailed line reason) ∨
      (incident = .interruptedAfter line ∧ result.1.aborted = true)

theorem Minds.sendScriptedWith (minds : Minds b) (poised : Poised b) (script : Script)
    (line : String) (logs : Bool) :
    AfterSend line b (b.sendScriptedWith callbacks script line true logs) := by
  have logged := evolves_logWith callbacks b logs .info
    s!"Sending '{line}' command..."
  have ready := poised.logWith callbacks minds.heard logs .info s!"Sending '{line}' command..."
  have sent := (minds.aside logged (by simp)).sendLine ready line
  have handed : Evolves [.world, .write, .tell] b _ :=
    (logged.mono (by simp)).trans ((evolves_sendLine _ line).mono (by simp))
  simp only [Bench.sendScriptedWith]
  split <;> rename_i same <;> rw [same] at sent handed
  · exact ⟨handed, sent, by simp, by simp⟩
  · rename_i m _
    have left := passes_giveWay m callbacks.jobs
    refine ⟨handed.trans (.of_passes left (by simp)), sent.aside left (by simp), ?_, ?_⟩
    · rintro report done quiet
      obtain rfl := Except.ok.inj done
      contradiction
    · rintro report done incident told
      obtain rfl := Except.ok.inj done
      exact .inl ⟨_, (Option.some.inj told).symm⟩
  · rename_i m
    have settled := ((passes_giveWay m callbacks.jobs).trans
      (passes_settleDelay _ script.settle true)).trans (passes_giveWay _ callbacks.jobs)
    have still := sent.aside settled (by simp)
    have reached := handed.trans (.of_passes settled (by simp))
    generalize ((m.giveWay callbacks.jobs).settleDelay script.settle true).giveWay callbacks.jobs =
      n at still reached
    have left := passes_giveWay n callbacks.jobs
    refine ⟨reached.trans (.of_passes left (by simp)), still.aside left (by simp), ?_, ?_⟩
    · rintro report done quiet
      obtain rfl := Except.ok.inj done
      exact Poised.giveWay (.inl (by simpa using quiet)) still.heard _
    · rintro report done incident told
      obtain rfl := Except.ok.inj done
      obtain ⟨cancelled, same⟩ := Option.ite_none_right_eq_some.mp told
      exact .inr ⟨(Option.some.inj same).symm,
        left.cancelled still.heard (by simpa using cancelled)⟩

end Sends

/-! ## Whole scripts -/

/-- What a script tells of its end at `c`: it completed, at the very moment of a cancellation at the
latest, or it was stopped, by a cancellation only if there was one. -/
inductive Ends (c : Bench) : ScriptOutcome → Prop
  | completed {sent} (poised : c.Poised) : Ends c ⟨.completed, sent, []⟩
  | stopped {sent incident} (told : incident.kind = .interrupted → c.aborted = true) :
      Ends c (.stopped sent incident)

theorem Ends.cancelled {c : Bench} {outcome : ScriptOutcome} (ends : Ends c outcome)
    (interrupted : outcome.status = .interrupted) : c.aborted = true := by
  cases ends with
  | completed => contradiction
  | stopped told => exact told ((status_stopped_eq_interrupted _ _).mp interrupted)

theorem Ends.poised {c : Bench} {outcome : ScriptOutcome} (ends : Ends c outcome)
    (completed : outcome.status = .completed) : c.Poised := by
  cases ends with
  | completed poised => exact poised
  | stopped => exact absurd completed (status_stopped_ne _ _)

/-- Everything that a script with callbacks does. -/
abbrev callbackDeeds : List Deed := [.world, .handle, .consume, .prompt, .write, .tell]

/-- What a script leaves behind. -/
structure AfterScript (b : Bench) (result : Bench × Except Fault ScriptOutcome) : Prop where
  evolves : Evolves callbackDeeds b result.1
  minds : Minds result.1
  ends : ∀ outcome, result.2 = .ok outcome → Ends result.1 outcome

section Scripts

variable (callbacks : Callbacks) {b c : Bench} {script : Script} {logs : Bool}

theorem AfterScript.behind {result : Bench × Except Fault ScriptOutcome}
    (script : AfterScript c result) (evolves : Evolves callbackDeeds b c) :
    AfterScript b result where
  evolves := evolves.trans script.evolves
  minds := script.minds
  ends := script.ends

theorem Minds.stop (minds : Minds b) (sent : List String) {incident : Incident}
    (told : incident.kind = .interrupted → b.aborted = true) :
    AfterScript b ((b.stopScriptWith callbacks logs sent incident).map id .ok) := by
  have logged := evolves_logWith callbacks b logs .warn incident.message
  refine ⟨logged.mono (by simp), minds.aside logged (by simp), ?_⟩
  rintro outcome done
  obtain rfl := Except.ok.inj done
  exact .stopped fun kind => logged.cancelled minds.heard (told kind)

/-- What came of a line stops a script by an interruption only if there was one. -/
theorem AfterSend.told {line : String} {report : SendReport} {incident : Incident}
    (send : AfterSend line b (c, .ok report)) (loud : report.incident = some incident)
    (kind : incident.kind = .interrupted) : c.aborted = true := by
  rcases send.loud report rfl incident loud with ⟨reason, rfl⟩ | ⟨-, cancelled⟩
  · contradiction
  · exact cancelled

/-- So does a read that missed its prompt. -/
theorem AfterRead.told {reading : Reading} (read : AfterRead Reading.reason b (c, .ok reading))
    (missing : ¬ reading.found = true) {phase : Phase} {limit : Millis}
    (kind : (reading.reason.miss phase limit).kind = .interrupted) : c.aborted = true := by
  cases ended : reading.reason with
  | marker => simp [Reading.found, ended] at missing
  | interrupted => exact read.interrupted reading rfl ended
  | closed =>
    rw [ended] at kind
    contradiction
  | timeout =>
    rw [ended] at kind
    cases phase <;> contradiction

/-- A read of a script, and what follows it: the script is stopped, or goes on poised. -/
theorem Minds.readUntilWith (minds : Minds b) {marker : String} {limit : Millis} {phase : Phase}
    {sent : List String} {next : Bench → Bench × Except Fault ScriptOutcome}
    (onward : ∀ c, Minds c → Poised c → AfterScript c (next c)) :
    AfterScript b
      (match b.readUntilWith callbacks marker limit true with
      | (c, .error fault) => (c, .error fault)
      | (c, .ok reading) =>
        if reading.found then next c
        else
          (c.stopScriptWith callbacks logs sent (reading.reason.miss phase limit)).map id .ok) := by
  have read := readUntilWith_afterRead callbacks minds.heard marker limit
  have still := minds.aside read.evolves (by simp)
  split <;> rename_i same <;> rw [same] at read still
  · exact ⟨read.evolves.mono (by simp), still, by simp⟩
  · refine AfterScript.behind ?_ (read.evolves.mono (by simp))
    split <;> rename_i found
    · exact onward _ still (read.marker _ rfl (by simpa [Reading.found] using found))
    · exact still.stop callbacks sent (read.told found)

theorem Minds.runCommandsWith (minds : Minds b) (poised : Poised b) (sent commands : List String) :
    AfterScript b (b.runCommandsWith callbacks script true logs sent commands) := by
  induction commands generalizing b sent with
  | nil =>
    have send := minds.sendScriptedWith callbacks poised script script.shutdownCommand logs
    rw [Bench.runCommandsWith]
    split <;> rename_i same <;> rw [same] at send
    · exact ⟨send.evolves.mono (by simp), send.minds, by simp⟩
    · refine AfterScript.behind ?_ (send.evolves.mono (by simp))
      dsimp only
      split <;> rename_i incident
      · exact send.minds.stop callbacks _ (send.told incident)
      · refine ⟨.refl, send.minds, fun outcome done => ?_⟩
        obtain rfl := Except.ok.inj done
        exact .completed (send.quiet _ rfl incident)
  | cons command rest ih =>
    have send := minds.sendScriptedWith callbacks poised script command logs
    rw [Bench.runCommandsWith]
    split <;> rename_i same <;> rw [same] at send
    · exact ⟨send.evolves.mono (by simp), send.minds, by simp⟩
    · refine AfterScript.behind ?_ (send.evolves.mono (by simp))
      dsimp only
      split <;> rename_i incident
      · exact send.minds.stop callbacks _ (send.told incident)
      · -- Between two lines there is a read, and it looks at the cancellation again.
        exact send.minds.readUntilWith callbacks fun c minds poised => ih minds poised _

/-- A script that is given the run's signal lets one text slip out at most once that is aborted, and
tells the truth about it in the end. -/
theorem Minds.runScriptWith (minds : Minds b) (script : Script) (logs : Bool) :
    AfterScript b (b.runScriptWith callbacks script true logs) := by
  have logged := evolves_logWith callbacks b logs .info "Waiting for shell..."
  refine AfterScript.behind ?_ (logged.mono (by simp))
  rw [Bench.runScriptWith]
  exact (minds.aside logged (by simp)).readUntilWith callbacks fun c minds poised =>
    minds.runCommandsWith callbacks poised [] script.commands

end Scripts

end Bench

end ConsoleHarness
