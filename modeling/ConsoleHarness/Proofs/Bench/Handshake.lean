import ConsoleHarness.Proofs.Bench.Fidelity

/-! # The prompt handshake

A script hands a line to its target only after the prompt before it was read.  `Earned` says so of
a single event; `Bench.OnScript` is what holds between the calls of a script that goes on.  A read
that finds its prompt raises the count of prompts by one, a line that is sent uses the prompt up,
and whatever else can happen ends the script.  `Bench.Handshake` collects what is true of the
bench and of the outcome at that end.
-/

namespace ConsoleHarness

/-- A text is handed over only when as many prompts were read as texts were handed over, this one
included; each read stopped at the first prompt, and nothing was read since the last. -/
def Earned (prompt : String) (before : List Entry) (event : Event) : Prop :=
  ∀ text accepted, event = .wrote text accepted →
    (readsIn before).1.length = (handedIn before).length + 1 ∧
      (∀ piece ∈ (readsIn before).1, Marker.EndsFirst prompt.toList piece.toList) ∧
      (readsIn before).2 = ""

/-- Between two texts that are handed over, what is consumed is one or more further reads that found
their prompt. -/
theorem earned_between {prompt : String} {history before between after : List Entry}
    {moment later : Millis} {text other : String} {accepted taken : Bool}
    (earned : Throughout (Earned prompt) history)
    (split : history = before ++ ⟨moment, .wrote text accepted⟩ ::
      (between ++ ⟨later, .wrote other taken⟩ :: after)) :
    ∃ pieces, pieces ≠ [] ∧ consumedIn between = String.join pieces ∧
      ∀ piece ∈ pieces, Marker.EndsFirst prompt.toList piece.toList := by
  let first : Entry := ⟨moment, .wrote text accepted⟩
  have again : history = (before ++ first :: between) ++ ⟨later, .wrote other taken⟩ :: after := by
    rw [split]; simp [first]
  obtain ⟨count, _, clean⟩ := earned before first _ split text accepted rfl
  obtain ⟨nextCount, ends, nextClean⟩ := earned (before ++ first :: between) _ after again _ _ rfl
  obtain ⟨pieces, grown⟩ := readsIn_isPrefix before (first :: between)
  have counts : handedIn (before ++ first :: between) =
      handedIn before ++ text :: handedIn between := by
    simp [handedIn, first, Event.handed?]
  rw [← grown, counts] at nextCount
  refine ⟨pieces, ?_, ?_, fun piece member => ends piece ?_⟩
  · -- Without a new piece there would be one text more than prompts.
    rintro rfl
    simp only [List.append_nil, List.length_append, List.length_cons] at nextCount
    omega
  · -- Nothing is left over on either side, so the new pieces are all that was consumed.
    have whole := consumedIn_eq_join (before ++ first :: between)
    have silent : consumedIn (first :: between) = consumedIn between := by
      simp [consumedIn, first, Event.unit?]
    rw [nextClean, ← grown, String.join_append, consumedIn_append, consumedIn_eq_join before, clean,
      String.append_empty, String.append_empty, String.append_right_inj, silent] at whole
    exact whole
  · rw [← grown]
    exact List.mem_append_right _ member

namespace Bench

/-- What holds between the calls of a script that has read `count` prompts. -/
structure OnScript (prompt : String) (count : Nat) (b : Bench) : Prop where
  running : b.session.state = .running
  opened : b.session.transcript.isSealed = false
  earned : Throughout (Earned prompt) b.history
  pieces : ∀ piece ∈ (readsIn b.history).1, Marker.EndsFirst prompt.toList piece.toList
  counted : (readsIn b.history).1.length = count
  clean : (readsIn b.history).2 = ""

section OnScript

variable {prompt : String} {count : Nat} {b c : Bench}

/-- Where nothing is handed over, nothing has to be earned. -/
theorem Evolves.earned {deeds : List Deed} (evolves : Evolves deeds b c)
    (unwritten : .write ∉ deeds) (old : Throughout (Earned prompt) b.history) :
    Throughout (Earned prompt) c.history := by
  refine evolves.throughout (fun before event kind => ?_) old
  rintro text accepted rfl
  exact absurd kind unwritten

/-- The script goes on as before when neither the session nor the reads have changed. -/
theorem OnScript.keep (on : OnScript prompt count b)
    (state : c.session.state = b.session.state)
    (still : c.session.transcript.isSealed = b.session.transcript.isSealed)
    (reads : readsIn c.history = readsIn b.history)
    (earned : Throughout (Earned prompt) c.history) : OnScript prompt count c where
  running := by rw [state, on.running]
  opened := by rw [still, on.opened]
  earned := earned
  pieces := by rw [reads]; exact on.pieces
  counted := by rw [reads, on.counted]
  clean := by rw [reads, on.clean]

/-- Nothing changes while the script waits or logs. -/
theorem OnScript.aside (on : OnScript prompt count b) (evolves : Evolves [.world, .tell] b c) :
    OnScript prompt count c := by
  have unread : consumedIn c.history = consumedIn b.history ++ "" := by
    rw [evolves.consumedIn_eq (by simp), String.append_empty]
  have reads := evolves.readsIn_eq (by simp) unread
  rw [String.append_empty] at reads
  exact on.keep (evolves.state_eq (by simp) (by simp)) (evolves.isSealed_eq (by simp)) reads
    (evolves.earned (by simp) on.earned)

/-- A read consumes up to the next prompt, or the script has earned no further line. -/
theorem OnScript.read (on : OnScript prompt count b) (filled : prompt ≠ "") (limit : Millis)
    (heeds : Bool) :
    ∃ c reading, b.readUntil prompt limit heeds = (c, .ok reading) ∧
      Throughout (Earned prompt) c.history ∧
      (reading.found = true → OnScript prompt (count + 1) c ∧ c.session.promptReady = true) := by
  have whole := evolves_readUntil b prompt limit heeds
  have earned := whole.earned (by simp) on.earned
  obtain ⟨m, more, consumes, ends⟩ := readUntil_spec b filled limit heeds
  -- The read found its prompt, or stopped before it, or met a sealed transcript.
  rcases ends with ⟨elapsed, done, first⟩ | ⟨reason, elapsed, done, _, due⟩ | ⟨_, closed⟩
  · rw [done] at whole earned
    refine ⟨_, _, done, earned, fun _ => ⟨?_, rfl⟩⟩
    have reads := consumes.evolves.readsIn_eq (by simp) consumes.consumed
    rw [on.clean, String.empty_append] at reads
    -- The read text becomes the last piece.
    have cut : readsIn m.markPromptReady.history = ((readsIn b.history).1 ++ [more], "") := by
      rw [markPromptReady, history_note, history_withSession, readsIn_concat, reads]
      rfl
    constructor
    · rw [whole.state_eq (by simp) (by simp), on.running]
    · rw [whole.isSealed_eq (by simp), on.opened]
    · exact earned
    · rw [cut]
      intro piece member
      rcases List.mem_append.mp member with old | new
      · exact on.pieces piece old
      · rw [List.mem_singleton.mp new]; exact first
    · rw [cut, List.length_append, on.counted, List.length_singleton]
    · rw [cut]
  · rw [done] at earned
    refine ⟨m, _, done, earned, fun found => ?_⟩
    cases reason with
    | marker => exact due.elim
    | timeout | closed | interrupted => contradiction
  · rw [on.opened] at closed
    contradiction

/-- A text is handed over: the reads so far have earned it. -/
theorem OnScript.hand (on : OnScript prompt count b)
    (balance : count = (handedIn b.history).length + 1) (step : Step .write b c) {text : String}
    {accepted : Bool} (noted : c.history = b.history ++ [⟨b.clock, .wrote text accepted⟩]) :
    OnScript prompt count c := by
  refine on.keep (step.state_eq (by simp) (by simp)) (step.isSealed_eq (by simp)) ?_ ?_
  · rw [noted, readsIn_concat]
    rfl
  · rw [noted]
    refine on.earned.concat fun _ _ _ => ⟨?_, on.pieces, on.clean⟩
    rw [on.counted, balance]

theorem OnScript.complete (on : OnScript prompt count b) (text : String) :
    OnScript prompt count (b.note (.written text)) := by
  refine on.keep rfl rfl ?_ ?_
  · rw [history_note, readsIn_concat]
    rfl
  · rw [history_note]
    exact on.earned.concat fun _ _ other => by cases other

/-- What a script knows of a text that it has handed over. -/
structure Handed (prompt text : String) (count : Nat) (completed : Bool) (b c : Bench) : Prop where
  on : OnScript prompt count c
  handed : handedIn c.history = handedIn b.history ++ [text]
  written : writtenIn c.history = writtenIn b.history ++ if completed then [text] else []

theorem OnScript.write (on : OnScript prompt count b)
    (balance : count = (handedIn b.history).length + 1) (text : String) :
    Handed prompt text count (b.write text).2.isOk b (b.write text).1 := by
  have writes := write_writesTo b text
  generalize b.write text = result at writes
  cases writes with
  | refused step noted =>
    refine ⟨on.hand balance step noted, ?_, ?_⟩
    · rw [noted, handedIn_append]; rfl
    · rw [noted, writtenIn_append]; rfl
  | @failed n m _ step noted passes =>
    refine ⟨(on.hand balance step noted).aside (.of_passes passes (by simp)), ?_, ?_⟩
    · rw [passes.handedIn_eq (by simp), noted, handedIn_append]; rfl
    · rw [passes.writtenIn_eq (by simp), noted, writtenIn_append]; rfl
  | @completed n m step noted passes =>
    have after := (on.hand balance step noted).aside (.of_passes passes (by simp))
    refine ⟨after.complete text, ?_, ?_⟩
    · rw [history_note, handedIn_append, passes.handedIn_eq (by simp), noted, handedIn_append]
      simp [handedIn, Event.handed?]
    · rw [history_note, writtenIn_append, passes.writtenIn_eq (by simp), noted, writtenIn_append]
      simp [writtenIn, Event.written?, Except.isOk, Except.toBool]

/-- With a prompt read, sending a line is never refused; either the script goes on, or something
has stopped it. -/
theorem OnScript.send (on : OnScript prompt count b) (ready : b.session.promptReady = true)
    (balance : count = (handedIn b.history).length + 1) (script : Script) (line : String)
    (heeds logs : Bool) :
    ∃ c report, b.sendScripted script line heeds logs = (c, .ok report) ∧
      Handed prompt (line ++ "\n") count report.completed b c ∧
      ((report.incident = none ∧ report.completed = true ∧ (heeds && c.aborted) = false) ∨
        ∃ incident, report.incident = some incident ∧ incident.kind ≠ .bootTimeout ∧
          (report.completed = true → (heeds && c.aborted) = true)) := by
  let m := b.log logs .info s!"Sending '{line}' command..."
  have logged : Evolves [.tell] b m := evolves_log _ _ _ _
  have onM : OnScript prompt count m := on.aside (logged.mono (by simp))
  let n := m.withSession { m.session with promptReady := false }
  -- The prompt is still there when the line claims it: logging does not use it up.
  have claimed : m.session.claimPrompt line = .ok { m.session with promptReady := false } := by
    have still := (logged.promptReady_eq (by simp) (by simp) (by simp)).trans ready
    simp [Session.claimPrompt, onM.running, still]
  have onN : OnScript prompt count n :=
    ⟨onM.running, onM.opened, onM.earned, onM.pieces, onM.counted, onM.clean⟩
  have sameHanded : handedIn n.history = handedIn b.history := logged.handedIn_eq (by simp)
  have sameWritten : writtenIn n.history = writtenIn b.history := logged.writtenIn_eq (by simp)
  have sent := onN.write (by rw [sameHanded]; exact balance) (line ++ "\n")
  unfold sendScripted sendLine
  rw [claimed]
  dsimp only
  cases result : n.write (line ++ "\n") with
  | mk c outcome =>
    rw [result] at sent
    obtain ⟨onC, handed, written⟩ := sent
    rw [sameHanded] at handed
    rw [sameWritten] at written
    cases outcome with
    | error failure =>
      exact ⟨c, _, rfl, ⟨onC, handed, written⟩, .inr ⟨_, rfl, by simp [Incident.kind], by simp⟩⟩
    | ok _ =>
      have settled := passes_settleDelay c script.settle heeds
      refine ⟨_, _, rfl, ⟨onC.aside (.of_passes settled (by simp)), ?_, ?_⟩, ?_⟩
      · rw [settled.handedIn_eq (by simp), handed]
      · rw [settled.writtenIn_eq (by simp), written]; rfl
      · cases cancelled : heeds && (c.settleDelay script.settle heeds).aborted with
        | true => exact .inr ⟨_, rfl, by simp [Incident.kind], fun _ => rfl⟩
        | false => exact .inl ⟨rfl, rfl, rfl⟩

end OnScript

/-! ## The whole script -/

/-- What is true when a script has come to its end. -/
structure Handshake (script : Script) (heeds : Bool) (c : Bench) (outcome : ScriptOutcome) :
    Prop where
  earned : Throughout (Earned script.prompt) c.history
  handed : handedIn c.history <+: script.lines.map (· ++ "\n")
  sent : outcome.sent <+: script.lines
  written : writtenIn c.history = outcome.sent.map (· ++ "\n")
  completed : outcome.status = .completed ↔
    outcome.sent = script.lines ∧ (heeds && c.aborted) = false
  explained : (outcome.status = .completed ∧ outcome.incidents = []) ∨
    (outcome.status ≠ .completed ∧ ∃ incident, outcome.incidents = [incident] ∧
      (incident.kind = .bootTimeout → handedIn c.history = []))

theorem status_stopped_ne (sent : List String) (incident : Incident) :
    (ScriptOutcome.stopped sent incident).status ≠ .completed := by
  unfold ScriptOutcome.stopped
  dsimp only
  split <;> simp

/-- A script that stops before its last line was sent in peace. -/
theorem Handshake.stop {script : Script} {heeds : Bool} {c : Bench} {sent : List String}
    {incident : Incident} (logs : Bool) (earned : Throughout (Earned script.prompt) c.history)
    (handed : handedIn c.history <+: script.lines.map (· ++ "\n")) (part : sent <+: script.lines)
    (written : writtenIn c.history = sent.map (· ++ "\n"))
    (unfinished : sent = script.lines → (heeds && c.aborted) = true)
    (boot : incident.kind = .bootTimeout → handedIn c.history = []) :
    Handshake script heeds (c.stopScript logs sent incident).1
      (c.stopScript logs sent incident).2 := by
  have logged : Evolves [.tell] c (c.stopScript logs sent incident).1 := evolves_log _ _ _ _
  have stopped := status_stopped_ne sent incident
  -- Stopping only logs, so the bench tells the same of the texts and of an abort.
  have sameHanded := logged.handedIn_eq (by simp)
  have sameAborted := logged.aborted_eq (by simp)
  constructor
  · exact logged.earned (by simp) earned
  · rw [sameHanded]; exact handed
  · exact part
  · rw [logged.writtenIn_eq (by simp)]; exact written
  · refine ⟨fun status => absurd status stopped, ?_⟩
    rintro ⟨all, calm⟩
    rw [sameAborted, unfinished all] at calm
    contradiction
  · exact .inr ⟨stopped, incident, rfl, fun kind => sameHanded.trans (boot kind)⟩

/-- A script that stops because of a line it has just handed over. -/
theorem Handed.stop {script : Script} {heeds logs : Bool} {b c : Bench} {sent more : List String}
    {line : String} {report : SendReport} {incident : Incident} {count : Nat}
    (lines : script.lines = sent ++ line :: more)
    (passed : Handed script.prompt (line ++ "\n") count report.completed b c)
    (handed : handedIn b.history = sent.map (· ++ "\n"))
    (written : writtenIn b.history = sent.map (· ++ "\n"))
    (other : incident.kind ≠ .bootTimeout)
    (cancelled : report.completed = true → (heeds && c.aborted) = true) :
    Handshake script heeds (c.stopScript logs (report.addTo sent line) incident).1
      (c.stopScript logs (report.addTo sent line) incident).2 := by
  obtain ⟨on, nowHanded, nowWritten⟩ := passed
  rw [handed] at nowHanded
  rw [written] at nowWritten
  refine .stop logs on.earned ?_ ?_ ?_ ?_ fun kind => absurd kind other
  · rw [nowHanded, lines]
    exact ⟨more.map (· ++ "\n"), by simp⟩
  · rw [lines]
    unfold SendReport.addTo
    split
    · exact ⟨more, by simp⟩
    · exact ⟨line :: more, rfl⟩
  · rw [nowWritten]
    unfold SendReport.addTo
    split
    · rw [List.map_append, List.map_singleton]
    · rw [List.append_nil]
  · cases done : report.completed with
    | true => exact fun _ => cancelled done
    | false =>
      -- The line is not among those sent, so they are not all lines.
      intro all
      rw [SendReport.addTo, done, lines] at all
      simp at all

/-- A line whose write was completed is one more of those sent. -/
theorem Handed.go {prompt line : String} {count : Nat} {b c : Bench} {sent : List String}
    (passed : Handed prompt (line ++ "\n") count true b c)
    (handed : handedIn b.history = sent.map (· ++ "\n"))
    (written : writtenIn b.history = sent.map (· ++ "\n")) :
    handedIn c.history = (sent ++ [line]).map (· ++ "\n") ∧
      writtenIn c.history = (sent ++ [line]).map (· ++ "\n") := by
  constructor
  · rw [passed.handed, handed, List.map_append, List.map_singleton]
  · rw [passed.written, written, List.map_append]
    rfl

theorem runCommands_handshake {script : Script} (filled : script.prompt ≠ "") (heeds logs : Bool)
    (commands : List String) (b : Bench) (sent : List String)
    (lines : script.lines = sent ++ commands ++ [script.shutdownCommand])
    (on : OnScript script.prompt (sent.length + 1) b) (ready : b.session.promptReady = true)
    (handed : handedIn b.history = sent.map (· ++ "\n"))
    (written : writtenIn b.history = sent.map (· ++ "\n")) :
    ∃ c outcome, b.runCommands script heeds logs sent commands = (c, .ok outcome) ∧
      Handshake script heeds c outcome := by
  have balance : sent.length + 1 = (handedIn b.history).length + 1 := by
    rw [handed, List.length_map]
  -- By induction on the commands still to be sent, with one prompt more than lines sent so far.
  induction commands generalizing b sent with
  | nil =>
    obtain ⟨c, report, done, passed, ends⟩ :=
      on.send ready balance script script.shutdownCommand heeds logs
    have all : script.lines = sent ++ [script.shutdownCommand] := by simpa using lines
    unfold runCommands
    rw [done]
    dsimp only
    rcases ends with ⟨quiet, completed, calm⟩ | ⟨incident, loud, other, cancelled⟩
    · rw [completed] at passed
      obtain ⟨nowHanded, nowWritten⟩ := passed.go handed written
      have added : report.addTo sent script.shutdownCommand = script.lines := by
        rw [SendReport.addTo, completed, all]; rfl
      rw [quiet, added]
      refine ⟨c, _, rfl, passed.on.earned, ?_, List.prefix_rfl, ?_, ?_, .inl ⟨rfl, rfl⟩⟩
      · have same : handedIn c.history = script.lines.map (· ++ "\n") := by rw [nowHanded, all]
        exact same ▸ List.prefix_rfl
      · rw [nowWritten, all]
      · exact ⟨fun _ => ⟨rfl, calm⟩, fun _ => rfl⟩
    · rw [loud]
      exact ⟨_, _, rfl, passed.stop all handed written other cancelled⟩
  | cons command rest ih =>
    obtain ⟨c, report, done, passed, ends⟩ := on.send ready balance script command heeds logs
    have cut : script.lines = sent ++ command :: (rest ++ [script.shutdownCommand]) := by
      simpa using lines
    unfold runCommands
    rw [done]
    dsimp only
    rcases ends with ⟨quiet, completed, calm⟩ | ⟨incident, loud, other, cancelled⟩
    · rw [completed] at passed
      obtain ⟨nowHanded, nowWritten⟩ := passed.go handed written
      have added : report.addTo sent command = sent ++ [command] := by
        rw [SendReport.addTo, completed]; rfl
      obtain ⟨d, reading, read, earned, found⟩ := passed.on.read filled script.promptTimeout heeds
      have reads := evolves_readUntil c script.prompt script.promptTimeout heeds
      rw [read] at reads
      rw [← reads.handedIn_eq (by simp)] at nowHanded
      rw [← reads.writtenIn_eq (by simp)] at nowWritten
      rw [quiet, added]
      dsimp only
      rw [read]
      dsimp only
      split
      · -- The prompt behind the command is there: the rest of the script goes on from `d`.
        rename_i marked
        obtain ⟨onD, readyD⟩ := found marked
        refine ih d (sent ++ [command]) ?_ ?_ readyD nowHanded nowWritten ?_
        · rw [cut]; simp
        · rw [List.length_append, List.length_singleton]; exact onD
        · rw [nowHanded, List.length_map]
      · refine ⟨_, _, rfl, .stop logs earned ?_ ?_ nowWritten ?_ ?_⟩
        · rw [nowHanded, cut]
          exact ⟨(rest ++ [script.shutdownCommand]).map (· ++ "\n"), by simp⟩
        · rw [cut]
          exact ⟨rest ++ [script.shutdownCommand], by simp⟩
        · -- The shutdown command at least is still to be sent.
          intro all
          rw [cut] at all
          simp at all
        · cases reading.reason <;> simp [ReadEnd.miss, Incident.kind]
    · rw [loud]
      exact ⟨_, _, rfl, passed.stop cut handed written other cancelled⟩

/-- A session that was launched and started, and on which the program has done nothing else. -/
def Fresh (b : Bench) : Prop :=
  b.session.state = .running ∧ ∃ target, Evolves [.world, .start, .tell] { target } b

theorem fresh_start (target : Target) : (launch target).start.1.Fresh := by
  have created : (launch target).session.state = .created := by rw [(alike_launch target).session]
  refine ⟨?_, target, ?_⟩
  · simp [start, Session.start, created]
  · exact (alike_launch target).passes.mono (by simp) |>.trans ((evolves_start _).mono (by simp))

theorem Fresh.onScript {b : Bench} (fresh : b.Fresh) (prompt : String) : OnScript prompt 0 b := by
  obtain ⟨running, target, evolves⟩ := fresh
  have unread : consumedIn b.history = consumedIn (Bench.history { target }) ++ "" := by
    rw [evolves.consumedIn_eq (by simp), String.append_empty]
  have reads : readsIn b.history = ([], "") := by rw [evolves.readsIn_eq (by simp) unread]; rfl
  constructor
  · exact running
  · exact evolves.isSealed_eq (by simp)
  · exact evolves.earned (by simp) throughout_nil
  · rw [reads]; simp
  · rw [reads]; rfl
  · rw [reads]

theorem Fresh.recorded {b : Bench} (fresh : b.Fresh) : Recorded b.history b.session := by
  obtain ⟨_, target, evolves⟩ := fresh
  exact evolves.recorded ⟨rfl, by simp, by simp [history]⟩

/-- Nothing was handed over on a fresh session. -/
theorem Fresh.unwritten {b : Bench} (fresh : b.Fresh) :
    ∀ entry ∈ b.history, entry.event.deed ≠ .write := by
  obtain ⟨_, target, evolves⟩ := fresh
  obtain ⟨news, grown, kinds⟩ := evolves.news
  intro entry member
  rw [grown] at member
  exact ne_of_mem_of_not_mem (kinds entry member) (by simp)

theorem runScript_handshake {b : Bench} (fresh : b.Fresh) {script : Script}
    (filled : script.prompt ≠ "") (heeds logs : Bool) :
    ∃ c outcome, b.runScript script heeds logs = (c, .ok outcome) ∧
      Handshake script heeds c outcome := by
  let m := b.log logs .info "Waiting for shell..."
  have logged : Evolves [.tell] b m := evolves_log _ _ _ _
  have on : OnScript script.prompt 0 m :=
    (fresh.onScript script.prompt).aside (logged.mono (by simp))
  obtain ⟨c, reading, read, earned, found⟩ := on.read filled script.bootTimeout heeds
  obtain ⟨_, target, launched⟩ := fresh
  have reads : Evolves [.world, .start, .tell, .consume, .prompt] { target } c := by
    have step := evolves_readUntil m script.prompt script.bootTimeout heeds
    rw [read] at step
    exact ((launched.mono (by simp)).trans (logged.mono (by simp))).trans (step.mono (by simp))
  -- Nothing was handed over up to here, which is what a boot timeout asserts.
  have handed : handedIn c.history = [] := reads.handedIn_eq (by simp)
  have written : writtenIn c.history = [] := reads.writtenIn_eq (by simp)
  unfold runScript
  rw [read]
  dsimp only
  split
  · rename_i marked
    obtain ⟨onC, ready⟩ := found marked
    exact runCommands_handshake filled heeds logs script.commands c [] rfl onC ready handed written
  · refine ⟨_, _, rfl, .stop logs earned ?_ (List.nil_prefix) written ?_ fun _ => handed⟩
    · rw [handed]
      exact List.nil_prefix
    · intro all
      simp [Script.lines] at all

/-- On a fresh session a script hands over its lines one by one, each only after one more prompt
was found; it is never refused, and its outcome tells how far it came and why it went no further.
Whenever it hands over a text, the transcript consists of the reads that found their prompt, and
between two such moments there is at least one of them. -/
theorem prompt_handshake {b : Bench} (fresh : b.Fresh) {script : Script}
    (filled : script.prompt ≠ "") (heeds logs : Bool) :
    ∃ c outcome, b.runScript script heeds logs = (c, .ok outcome) ∧
      Handshake script heeds c outcome ∧
      (∀ before moment text accepted after,
        c.history = before ++ ⟨moment, .wrote text accepted⟩ :: after →
          ∃ now, Evolves scriptDeeds b now ∧ Evolves scriptDeeds now c ∧ now.history = before ∧
            now.session.transcript.text = String.join (readsIn before).1) ∧
      ∀ before moment text accepted between later other taken after,
        c.history = before ++ ⟨moment, .wrote text accepted⟩ ::
            (between ++ ⟨later, .wrote other taken⟩ :: after) →
          ∃ pieces, pieces ≠ [] ∧ consumedIn between = String.join pieces ∧
            ∀ piece ∈ pieces, Marker.EndsFirst script.prompt.toList piece.toList := by
  obtain ⟨c, outcome, done, shaken⟩ := runScript_handshake fresh filled heeds logs
  refine ⟨c, outcome, done, shaken, ?_, ?_⟩
  · intro before moment text accepted after split
    have evolves := evolves_runScript b script heeds logs
    rw [done] at evolves
    obtain ⟨now, next, deed, reached, member, step, onward, here, -⟩ :=
      evolves.exists_step split fun old => fresh.unwritten _ old rfl
    refine ⟨now, reached, (Evolves.of_step step member).trans onward, here, ?_⟩
    -- The transcript is what was consumed, and nothing is left behind the last prompt.
    have clean := (shaken.earned before _ after split text accepted rfl).2.2
    rw [(reached.recorded fresh.recorded).mirrored, here, consumedIn_eq_join, clean,
      String.append_empty]
  · intro before moment text accepted between later other taken after split
    exact earned_between shaken.earned split

/-! ## Two lines -/

/-- A script that lists some files. -/
def listing : Script where
  prompt := "$ "
  bootTimeout := 10
  promptTimeout := 10
  settle := 0
  commands := ["ls"]
  shutdownCommand := "poweroff"

/-- A target that prompts, lists its files when it is told to, and prompts again. -/
def lister : Target where
  events := [{ after := some 5, action := .emit "$ ".toUTF8.toList }]
  answer := fun lines =>
    if lines = ["ls\n"] then [{ after := some 2, action := .emit "readme\n$ ".toUTF8.toList }]
    else []

namespace Listing

def started : Bench := (launch lister).start.1

def waiting : Bench := started.log true .info "Waiting for shell..."

/-- The bench when a prompt has come and when it was read, before and behind the command. -/
def booted : Bench := waiting.waitForOutput 10 true

def prompted : Bench := (booted.recordMarked "$ " { booted.session with pending := [] } 2).1

def sent : Bench := (prompted.sendScripted listing "ls" true true).1

def listed : Bench := sent.waitForOutput 10 true

def promptedAgain : Bench :=
  (listed.recordMarked "readme\n$ " { listed.session with pending := [] } 9).1

/-- The bench when the script returns. -/
def returned : Bench := (promptedAgain.runCommands listing true true ["ls"] []).1

theorem runScript_eq : started.runScript listing true true =
    promptedAgain.runCommands listing true true ["ls"] [] := by
  have first : waiting.readUntil listing.prompt listing.bootTimeout true =
      (prompted, .ok ⟨.marker, "" ++ "$ ", _⟩) :=
    readUntil_of_awaited (by decide) (by decide +kernel) (by decide +kernel)
      (by decide +kernel : booted.session.takeChunk = _) (by decide +kernel)
      (Prod.ext rfl (by decide +kernel) :
        booted.recordMarked "$ " { booted.session with pending := [] } 2 = (prompted, .ok "$ "))
  have command : prompted.sendScripted listing "ls" true true =
      (sent, .ok { completed := true }) := Prod.ext rfl (by decide +kernel)
  have second : sent.readUntil listing.prompt listing.promptTimeout true =
      (promptedAgain, .ok ⟨.marker, "" ++ "readme\n$ ", _⟩) :=
    readUntil_of_awaited (by decide) (by decide +kernel) (by decide +kernel)
      (by decide +kernel : listed.session.takeChunk = _) (by decide +kernel)
      (Prod.ext rfl (by decide +kernel) :
        listed.recordMarked "readme\n$ " { listed.session with pending := [] } 9 =
          (promptedAgain, .ok "readme\n$ "))
  rw [runScript, ← waiting, first]
  show prompted.runCommands listing true true [] ["ls"] = _
  conv_lhs => rw [runCommands, command]
  dsimp only
  rw [second]
  rfl

theorem history_returned :
    returned.history =
      returned.history.take 7 ++ ⟨5, .wrote "ls\n" true⟩ ::
        ((returned.history.drop 8).take 7 ++ ⟨7, .wrote "poweroff\n" true⟩ ::
          returned.history.drop 16) := by
  decide +kernel

end Listing

/-- Both lines are handed over behind their prompts: the first one when nothing but a prompt was
read, the second one when another one was read. -/
theorem prompt_handshake_listing :
    ∃ c outcome before between after,
      Listing.started.runScript listing true true = (c, .ok outcome) ∧
        outcome.status = .completed ∧ outcome.sent = ["ls", "poweroff"] ∧
        c.history = before ++ ⟨5, .wrote "ls\n" true⟩ ::
          (between ++ ⟨7, .wrote "poweroff\n" true⟩ :: after) ∧
        (∃ now : Bench, now.history = before ∧ now.session.transcript.text = "$ ") ∧
        ∃ pieces, pieces ≠ [] ∧ consumedIn between = String.join pieces ∧
          ∀ piece ∈ pieces, Marker.EndsFirst "$ ".toList piece.toList := by
  have filled : listing.prompt ≠ "" := by decide
  obtain ⟨c, outcome, done, -, reads, apart⟩ :=
    prompt_handshake (fresh_start lister) filled true true
  have ends := Listing.runScript_eq.symm.trans done
  obtain rfl : Listing.returned = c := by rw [Listing.returned, ends]
  have result : (Listing.promptedAgain.runCommands listing true true ["ls"] []).2 = .ok outcome :=
    by rw [ends]
  obtain rfl : { status := .completed, sent := ["ls", "poweroff"], incidents := [] } = outcome :=
    Except.ok.inj (Eq.trans (by decide +kernel) result)
  obtain ⟨now, -, -, here, text⟩ := reads _ _ _ _ _ Listing.history_returned
  exact ⟨_, _, _, _, _, done, rfl, rfl, Listing.history_returned,
    ⟨now, here, text.trans (by decide +kernel)⟩, apart _ _ _ _ _ _ _ _ _ Listing.history_returned⟩

end Bench

end ConsoleHarness
