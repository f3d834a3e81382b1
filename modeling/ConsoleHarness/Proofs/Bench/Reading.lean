import ConsoleHarness.Proofs.Bench.History
import ConsoleHarness.Proofs.Bench.World
import ConsoleHarness.Proofs.Session.Marker

/-! # What a read comes to

A read consumes output chunk by chunk and pauses in between.  `Bench.Consumes b text c` says that
`c` comes from `b` by consuming exactly `text`, with nothing else done.  `Bench.ReadsTo` lists the
three ways in which a read can end: it has found its marker at the first place where the text of
this call ends with it, it has a reason to stop before that, or the transcript was sealed.
-/

namespace ConsoleHarness

namespace Bench

/-- `c` comes from `b` by consuming `text`. -/
structure Consumes (b : Bench) (text : String) (c : Bench) : Prop where
  evolves : Evolves [.world, .consume] b c
  consumed : consumedIn c.history = consumedIn b.history ++ text

theorem Consumes.refl (b : Bench) : Consumes b "" b := ⟨.refl, by simp⟩

theorem Consumes.trans {b c d : Bench} {first second : String} (early : Consumes b first c)
    (late : Consumes c second d) : Consumes b (first ++ second) d :=
  ⟨early.evolves.trans late.evolves, by
    rw [late.consumed, early.consumed, String.append_assoc]⟩

theorem Consumes.of_passes {b c : Bench} (passes : Passes b c) : Consumes b "" c :=
  ⟨.of_passes passes (by simp), by rw [passes.consumedIn_eq (by simp), String.append_empty]⟩

/-! ## One chunk -/

theorem takeChunk_eq_some {s t : Session} {chunk : String} (taken : s.takeChunk = some (chunk, t)) :
    ∃ rest, s.pending = chunk :: rest ∧ t = { s with pending := rest } := by
  unfold Session.takeChunk at taken
  split at taken
  · contradiction
  · rename_i first rest front
    obtain ⟨rfl, rfl⟩ := Prod.mk.inj (Option.some.inj taken)
    exact ⟨rest, front, rfl⟩

theorem takeChunk_eq_none {s : Session} (taken : s.takeChunk = none) : s.pending = [] := by
  unfold Session.takeChunk at taken
  split at taken
  · assumption
  · contradiction

theorem record_of_open {b : Bench} (opened : b.session.transcript.isSealed = false)
    (unit : String) :
    b.record unit =
      ((b.withSession { b.session with transcript := b.session.transcript.extend unit }).note
        (.recorded unit), .ok ()) := by
  simp only [record, Session.record, Transcript.append_of_open opened]
  rfl

theorem record_of_sealed {b : Bench} (closed : b.session.transcript.isSealed = true)
    (unit : String) : b.record unit = (b, .error .sealedTranscript) := by
  simp only [record, Session.record, Transcript.append_of_sealed closed]

/-- What a step of consuming leaves is what was consumed. -/
theorem Consumes.of_step {b c : Bench} {unit : String} (step : Step .consume b c)
    (noted : c.history = b.history ++ [⟨b.clock, .recorded unit⟩]) : Consumes b unit c := by
  refine ⟨.of_step step (by simp), ?_⟩
  rw [noted, consumedIn_append]
  simp [consumedIn, Event.unit?]

theorem Consumes.of_lose {b : Bench} {chunk : String} {rest : List String}
    (front : b.session.pending = chunk :: rest) (closed : b.session.transcript.isSealed = true) :
    Consumes b "" (b.withSession { b.session with pending := rest }) :=
  ⟨.of_step (.lose front closed) (by simp), by simp⟩

/-- Taking the oldest chunk consumes it whole, unless the transcript is sealed. -/
theorem recordChunk_spec {b : Bench} {chunk : String} {session : Session}
    (taken : b.session.takeChunk = some (chunk, session)) :
    ((b.recordChunk chunk session).2 = .ok () ∧ Consumes b chunk (b.recordChunk chunk session).1) ∨
      ((b.recordChunk chunk session).2 = .error .sealedTranscript ∧
        b.session.transcript.isSealed = true ∧ Consumes b "" (b.recordChunk chunk session).1) := by
  obtain ⟨rest, front, rfl⟩ := takeChunk_eq_some taken
  unfold recordChunk
  cases state : b.session.transcript.isSealed with
  | false =>
    have whole : b.session.pending = (chunk ++ "") :: rest := by
      rw [String.append_empty]; exact front
    rw [record_of_open (b := b.withSession { b.session with pending := rest }) state]
    exact .inl ⟨rfl, .of_step (.consume whole state) (by simp)⟩
  | true =>
    rw [record_of_sealed (b := b.withSession { b.session with pending := rest }) state]
    exact .inr ⟨rfl, rfl, .of_lose front state⟩

/-- Taking a chunk up to the marker consumes its first part, leaves the rest pending, and notes the
prompt, unless the transcript is sealed. -/
theorem recordMarked_spec {b : Bench} {chunk : String} {session : Session}
    (taken : b.session.takeChunk = some (chunk, session)) {unit tail : List Char}
    (cut : chunk.toList = unit ++ tail) :
    (∃ m, b.recordMarked chunk session unit.length = (m.markPromptReady, .ok (String.ofList unit)) ∧
        Consumes b (String.ofList unit) m) ∨
      (∃ m, b.recordMarked chunk session unit.length = (m, .error .sealedTranscript) ∧
        b.session.transcript.isSealed = true ∧ Consumes b "" m) := by
  obtain ⟨rest, front, rfl⟩ := takeChunk_eq_some taken
  unfold recordMarked
  have first : chunk.toList.take unit.length = unit := by rw [cut, List.take_left]
  have second : chunk.toList.drop unit.length = tail := by rw [cut, List.drop_left]
  rw [first, second]
  cases state : b.session.transcript.isSealed with
  | false =>
    have split : b.session.pending = (String.ofList unit ++ String.ofList tail) :: rest := by
      rw [front, ← String.ofList_append, ← cut, String.ofList_toList]
    dsimp only
    rw [record_of_open (b := b.withSession { b.session with pending := rest }) state]
    refine .inl ⟨_, rfl, .of_step (?_ : Step .consume b _) (by simp)⟩
    have step := Step.consume split state
    unfold Session.pushBack
    cases empty : (String.ofList tail).isEmpty with
    | true => rw [empty] at step; exact step
    | false => rw [empty] at step; exact step
  | true =>
    dsimp only
    rw [record_of_sealed (b := b.withSession { b.session with pending := rest }) state]
    exact .inr ⟨_, rfl, rfl, .of_lose front state⟩

/-! ## The loop -/

end Bench

/-- What is true of a bench on which a read stopped without its marker. -/
def ReadEnd.Due (reason : ReadEnd) (deadline : Millis) (heeds : Bool) (b : Bench) : Prop :=
  match reason with
  | .marker => False
  | .interrupted => heeds = true ∧ b.aborted = true
  | .closed => b.session.pending = [] ∧ b.session.outputClosed = true
  | .timeout =>
    b.session.pending = [] ∧ b.session.outputClosed = false ∧ (heeds && b.aborted) = false ∧
      deadline ≤ b.clock

theorem ReadEnd.Due.unfound {reason : ReadEnd} {deadline : Millis} {heeds : Bool} {b : Bench}
    (due : reason.Due deadline heeds b) : reason ≠ .marker := by
  rintro rfl
  exact due

/-- Unless it was cancelled, a read without its marker has used up everything. -/
theorem ReadEnd.Due.exhausted {reason : ReadEnd} {deadline : Millis} {heeds : Bool} {b : Bench}
    (due : reason.Due deadline heeds b) (calm : reason ≠ .interrupted) :
    b.session.pending = [] := by
  cases reason with
  | marker => exact absurd due id
  | interrupted => exact absurd rfl calm
  | closed | timeout => exact due.1

namespace Bench

/-- What a read from `b` comes to that had read `text` before. -/
inductive ReadsTo (marker : List Char) (deadline : Millis) (heeds : Bool) (text : String)
    (b : Bench) : Bench × Except Fault (ReadEnd × String) → Prop
  | found {m more} (consumes : Consumes b more m)
      (ends : Marker.EndsFirst marker (text ++ more).toList) :
      ReadsTo marker deadline heeds text b (m.markPromptReady, .ok (.marker, text ++ more))
  | missed {m more reason} (consumes : Consumes b more m)
      (absent : Marker.Absent marker (text ++ more).toList)
      (due : reason.Due deadline heeds m) :
      ReadsTo marker deadline heeds text b (m, .ok (reason, text ++ more))
  | refused {m more} (consumes : Consumes b more m)
      (closed : b.session.transcript.isSealed = true) :
      ReadsTo marker deadline heeds text b (m, .error .sealedTranscript)

/-- A read may have consumed something before. -/
theorem ReadsTo.after {marker : List Char} {deadline : Millis} {heeds : Bool}
    {text first : String} {b c : Bench} {result : Bench × Except Fault (ReadEnd × String)}
    (early : Consumes b first c) (late : ReadsTo marker deadline heeds (text ++ first) c result) :
    ReadsTo marker deadline heeds text b result := by
  have same := early.evolves.isSealed_eq (by simp)
  cases late with
  | found consumes ends =>
    rw [String.append_assoc] at ends ⊢
    exact .found (early.trans consumes) ends
  | missed consumes absent due =>
    rw [String.append_assoc] at absent ⊢
    exact .missed (early.trans consumes) absent due
  | refused consumes closed => exact .refused (early.trans consumes) (same ▸ closed)

/-- A read that stops here. -/
theorem ReadsTo.stop {marker : List Char} {deadline : Millis} {heeds : Bool} {text : String}
    {b : Bench} {reason : ReadEnd} (absent : Marker.Absent marker text.toList)
    (due : reason.Due deadline heeds b) :
    ReadsTo marker deadline heeds text b (b, .ok (reason, text)) := by
  have stopped : ReadsTo marker deadline heeds text b (b, .ok (reason, text ++ "")) :=
    .missed (.refl b) (by rw [String.append_empty]; exact absent) due
  rwa [String.append_empty] at stopped

theorem readLoop_readsTo (marker : List Char) (deadline : Millis) (heeds : Bool)
    (window : List Char) (text : String) (b : Bench)
    (absent : Marker.Absent marker text.toList)
    (carried : window = Marker.window marker text.toList) :
    ReadsTo marker deadline heeds text b (readLoop marker deadline heeds window text b) := by
  -- The cases are the branches of the loop; the window is always that of the text read so far.
  fun_induction readLoop marker deadline heeds window text b with
  | case1 window text b cancelled =>
    exact .stop absent (by simpa [ReadEnd.Due] using cancelled)
  | case2 window text b _ chunk session taken count inside after fault refused =>
    -- The marker is in this chunk, but the transcript takes nothing any more.
    subst carried
    obtain ⟨unit, tail, cut, rfl, _⟩ := Marker.endsFirst_of_endIn? absent inside
    rw [Nat.zero_add] at refused
    rcases recordMarked_spec taken cut with ⟨m, done, _⟩ | ⟨m, done, closed, consumes⟩
    · rw [done] at refused; simp at refused
    · obtain ⟨rfl, same⟩ := Prod.mk.inj (done.symm.trans refused)
      obtain rfl := Except.error.inj same
      exact .refused consumes closed
  | case3 window text b _ chunk session taken count inside after unit recorded =>
    -- The marker is in this chunk; what is behind it goes back.
    subst carried
    obtain ⟨first, tail, cut, rfl, ends⟩ := Marker.endsFirst_of_endIn? absent inside
    rw [Nat.zero_add] at recorded
    rcases recordMarked_spec taken cut with ⟨m, done, consumes⟩ | ⟨m, done, _⟩
    · obtain ⟨rfl, same⟩ := Prod.mk.inj (done.symm.trans recorded)
      obtain rfl := Except.ok.inj same
      exact .found consumes (by rwa [String.toList_append, String.toList_ofList])
    · rw [done] at recorded; simp at recorded
  | case4 window text b _ chunk session taken _ fault refused =>
    rcases recordChunk_spec taken with ⟨done, _⟩ | ⟨done, closed, consumes⟩
    · rw [done] at refused; contradiction
    · obtain rfl := Except.error.inj (done.symm.trans refused)
      exact .refused consumes closed
  | case5 window text b _ chunk session taken passed recorded ih =>
    -- The whole chunk is consumed without the marker, and the loop goes on.
    subst carried
    rcases recordChunk_spec taken with ⟨_, consumes⟩ | ⟨done, _⟩
    · refine .after consumes (ih ?_ ?_)
      · rw [String.toList_append]
        exact Marker.absent_of_endIn? absent passed
      · rw [Marker.windowAfter_window, String.toList_append]
    · rw [done] at recorded; contradiction
  | case6 window text b _ taken closed =>
    exact .stop absent ⟨takeChunk_eq_none taken, closed⟩
  | case7 window text b unheeded taken opened late =>
    exact .stop absent ⟨takeChunk_eq_none taken, by simpa using opened, by simpa using unheeded,
      by grind⟩
  | case8 window text b _ taken _ _ ih =>
    -- Nothing is pending: the read pauses, and whatever passes meanwhile consumes nothing.
    have waited := Consumes.of_passes (passes_waitForOutput b (deadline - b.clock) heeds)
    refine .after waited ?_
    rw [String.append_empty]
    exact ih absent carried

/-! ### Its branches -/

section Branches

variable {marker window : List Char} {deadline : Millis} {heeds : Bool} {text : String}
  {b c : Bench} {chunk : String} {session : Session}

theorem readLoop_of_none (unheeded : (heeds && b.aborted) = false)
    (taken : b.session.takeChunk = none) :
    readLoop marker deadline heeds window text b =
      if b.session.outputClosed then (b, .ok (.closed, text))
      else if deadline - b.clock ≤ 0 then (b, .ok (.timeout, text))
      else
        readLoop marker deadline heeds window text
          (b.waitForOutput (deadline - b.clock) heeds) := by
  rw [readLoop, dif_neg (by simp [unheeded])]
  split
  · rename_i there
    rw [taken] at there
    contradiction
  · rfl

theorem readLoop_of_some (unheeded : (heeds && b.aborted) = false)
    (taken : b.session.takeChunk = some (chunk, session)) :
    readLoop marker deadline heeds window text b =
      match Marker.endIn? marker window 0 chunk.toList with
      | some count =>
        match b.recordMarked chunk session count with
        | (b, .error fault) => (b, .error fault)
        | (b, .ok unit) => (b, .ok (.marker, text ++ unit))
      | none =>
        match b.recordChunk chunk session with
        | (b, .error fault) => (b, .error fault)
        | (b, .ok ()) =>
          readLoop marker deadline heeds (Marker.windowAfter marker window chunk.toList)
            (text ++ chunk) b := by
  rw [readLoop, dif_neg (by simp [unheeded])]
  split
  · rename_i other next there
    rw [taken] at there
    obtain ⟨rfl, rfl⟩ := Prod.mk.inj (Option.some.inj there)
    cases Marker.endIn? marker window 0 chunk.toList with
    | some count => rfl
    | none =>
      cases b.recordChunk chunk session with
      | mk c result => cases result <;> rfl
  · rename_i there
    rw [taken] at there
    contradiction

theorem readLoop_of_empty (unheeded : (heeds && b.aborted) = false)
    (taken : b.session.takeChunk = none) (opened : b.session.outputClosed = false)
    (left : ¬ deadline - b.clock ≤ 0) :
    readLoop marker deadline heeds window text b =
      readLoop marker deadline heeds window text (b.waitForOutput (deadline - b.clock) heeds) := by
  rw [readLoop_of_none unheeded taken, if_neg (by simp [opened]), if_neg left]

theorem readLoop_of_closed (unheeded : (heeds && b.aborted) = false)
    (taken : b.session.takeChunk = none) (closed : b.session.outputClosed = true) :
    readLoop marker deadline heeds window text b = (b, .ok (.closed, text)) := by
  rw [readLoop_of_none unheeded taken, if_pos closed]

theorem readLoop_of_late (unheeded : (heeds && b.aborted) = false)
    (taken : b.session.takeChunk = none) (opened : b.session.outputClosed = false)
    (late : deadline - b.clock ≤ 0) :
    readLoop marker deadline heeds window text b = (b, .ok (.timeout, text)) := by
  rw [readLoop_of_none unheeded taken, if_neg (by simp [opened]), if_pos late]

theorem readLoop_of_marked (unheeded : (heeds && b.aborted) = false) {count : Nat}
    (taken : b.session.takeChunk = some (chunk, session))
    (inside : Marker.endIn? marker window 0 chunk.toList = some count) {unit : String}
    (recorded : b.recordMarked chunk session count = (c, .ok unit)) :
    readLoop marker deadline heeds window text b = (c, .ok (.marker, text ++ unit)) := by
  rw [readLoop_of_some unheeded taken, inside]
  dsimp only
  rw [recorded]

theorem readLoop_of_unmarked (unheeded : (heeds && b.aborted) = false)
    (taken : b.session.takeChunk = some (chunk, session))
    (passed : Marker.endIn? marker window 0 chunk.toList = none)
    (recorded : b.recordChunk chunk session = (c, .ok ())) :
    readLoop marker deadline heeds window text b =
      readLoop marker deadline heeds (Marker.windowAfter marker window chunk.toList)
        (text ++ chunk) c := by
  rw [readLoop_of_some unheeded taken, passed]
  dsimp only
  rw [recorded]

/-- A read that heeds the run's signal and looks at the bench has to wait. -/
def Waits (b : Bench) (span : Millis) : Prop :=
  b.aborted = false ∧ b.session.takeChunk = none ∧ b.session.outputClosed = false ∧ ¬ span ≤ 0

instance (b : Bench) (span : Millis) : Decidable (b.Waits span) :=
  inferInstanceAs (Decidable (_ ∧ _ ∧ _ ∧ _))

/-- Nothing more comes. -/
def HungUp (b : Bench) : Prop :=
  b.aborted = false ∧ b.session.takeChunk = none ∧ b.session.outputClosed = true

instance (b : Bench) : Decidable b.HungUp := inferInstanceAs (Decidable (_ ∧ _ ∧ _))

theorem Waits.readLoop (waits : b.Waits (deadline - b.clock)) :
    readLoop marker deadline true window text b =
      readLoop marker deadline true window text (b.waitForOutput (deadline - b.clock) true) := by
  obtain ⟨running, empty, opened, left⟩ := waits
  exact readLoop_of_empty (by simp [running]) empty opened left

theorem HungUp.readLoop (hung : b.HungUp) :
    readLoop marker deadline true window text b = (b, .ok (.closed, text)) := by
  obtain ⟨running, empty, closed⟩ := hung
  exact readLoop_of_closed (by simp [running]) empty closed

section Limit

variable {marker : String} {limit : Millis}

theorem clock_add_sub (b : Bench) (limit : Millis) : b.clock + limit - b.clock = limit := by grind

/-- A read that has to wait, and then finds its marker in the first chunk that arrives. -/
theorem readUntil_of_awaited {unit : String} {count : Nat} (filled : marker ≠ "")
    (waits : b.Waits limit) (calm : (b.waitForOutput limit true).aborted = false)
    (taken : (b.waitForOutput limit true).session.takeChunk = some (chunk, session))
    (inside : Marker.endIn? marker.toList [] 0 chunk.toList = some count)
    (recorded : (b.waitForOutput limit true).recordMarked chunk session count = (c, .ok unit)) :
    b.readUntil marker limit true = (c, .ok ⟨.marker, "" ++ unit, c.clock - b.clock⟩) := by
  have read : readLoop marker.toList (b.clock + limit) true [] "" b =
      (c, .ok (.marker, "" ++ unit)) := by
    rw [Waits.readLoop (by rwa [clock_add_sub]), clock_add_sub]
    exact readLoop_of_marked (by simp [calm]) taken inside recorded
  rw [readUntil, if_neg (by simpa using filled), read]

/-- A read that has to wait, and then finds the output closed. -/
theorem readUntil_of_hungUp (filled : marker ≠ "") (waits : b.Waits limit)
    (hung : (b.waitForOutput limit true).HungUp) :
    b.readUntil marker limit true =
      (b.waitForOutput limit true,
        .ok ⟨.closed, "", (b.waitForOutput limit true).clock - b.clock⟩) := by
  have read : readLoop marker.toList (b.clock + limit) true [] "" b =
      (b.waitForOutput limit true, .ok (.closed, "")) := by
    rw [Waits.readLoop (by rwa [clock_add_sub]), clock_add_sub, hung.readLoop]
  rw [readUntil, if_neg (by simpa using filled), read]

/-- A read that has to wait, finds a chunk without its marker, waits again, and finds the output
closed. -/
theorem readUntil_of_lastWords (filled : marker ≠ "") (waits : b.Waits limit)
    (calm : (b.waitForOutput limit true).aborted = false)
    (taken : (b.waitForOutput limit true).session.takeChunk = some (chunk, session))
    (passed : Marker.endIn? marker.toList [] 0 chunk.toList = none)
    (recorded : (b.waitForOutput limit true).recordChunk chunk session = (c, .ok ()))
    (again : c.Waits (b.clock + limit - c.clock)) {d : Bench}
    (waited : c.waitForOutput (b.clock + limit - c.clock) true = d) (hung : d.HungUp) :
    b.readUntil marker limit true = (d, .ok ⟨.closed, "" ++ chunk, d.clock - b.clock⟩) := by
  have read : readLoop marker.toList (b.clock + limit) true [] "" b =
      (d, .ok (.closed, "" ++ chunk)) := by
    rw [Waits.readLoop (by rwa [clock_add_sub]), clock_add_sub,
      readLoop_of_unmarked (by simp [calm]) taken passed recorded, again.readLoop, waited,
      hung.readLoop]
  rw [readUntil, if_neg (by simpa using filled), read]

end Limit

end Branches

/-- Reading with an empty marker is refused; any other read starts its loop with nothing read. -/
theorem readUntil_spec (b : Bench) {marker : String} (filled : marker ≠ "") (limit : Millis)
    (heeds : Bool) :
    ∃ m more, Consumes b more m ∧
      ((∃ elapsed, b.readUntil marker limit heeds =
            (m.markPromptReady, .ok ⟨.marker, more, elapsed⟩) ∧
          Marker.EndsFirst marker.toList more.toList) ∨
        (∃ reason elapsed, b.readUntil marker limit heeds = (m, .ok ⟨reason, more, elapsed⟩) ∧
          Marker.Absent marker.toList more.toList ∧ reason.Due (b.clock + limit) heeds m) ∨
        (b.readUntil marker limit heeds = (m, .error .sealedTranscript) ∧
          b.session.transcript.isSealed = true)) := by
  have nonempty : marker.toList ≠ [] := by simpa using filled
  have loop := readLoop_readsTo marker.toList (b.clock + limit) heeds [] "" b
    (Marker.absent_nil nonempty) (by simp)
  unfold readUntil
  rw [if_neg (by simpa using filled)]
  -- Before the loop nothing was read, so the text of the call is what the loop consumes.
  generalize readLoop marker.toList (b.clock + limit) heeds [] "" b = result at loop
  cases loop with
  | @found m more consumes ends =>
    rw [String.empty_append] at ends ⊢
    exact ⟨m, more, consumes, .inl ⟨_, rfl, ends⟩⟩
  | @missed m more reason consumes absent due =>
    rw [String.empty_append] at absent ⊢
    exact ⟨m, more, consumes, .inr (.inl ⟨reason, _, rfl, absent, due⟩)⟩
  | @refused m more consumes closed => exact ⟨m, more, consumes, .inr (.inr ⟨rfl, closed⟩)⟩

/-- While the transcript takes output, a read gives an answer. -/
theorem exists_reading {b : Bench} (opened : b.session.transcript.isSealed = false)
    {marker : String} (filled : marker ≠ "") (limit : Millis) (heeds : Bool) :
    ∃ c reading, b.readUntil marker limit heeds = (c, .ok reading) := by
  obtain ⟨m, more, _, ⟨_, found, _⟩ | ⟨_, _, missed, _⟩ | ⟨_, closed⟩⟩ :=
    readUntil_spec b filled limit heeds
  · exact ⟨_, _, found⟩
  · exact ⟨_, _, missed⟩
  · exact absurd (closed.symm.trans opened) (by simp)

/-- What a read that gives an answer has consumed, and why it stopped. -/
theorem readUntil_ok {b c : Bench} {marker : String} {limit : Millis} {heeds : Bool}
    {reading : Reading} (filled : marker ≠ "")
    (done : b.readUntil marker limit heeds = (c, .ok reading)) :
    consumedIn c.history = consumedIn b.history ++ reading.text ∧
      ((reading.reason = .marker ∧ Marker.EndsFirst marker.toList reading.text.toList ∧
          c.session.promptReady = true) ∨
        (reading.reason.Due (b.clock + limit) heeds c ∧
          Marker.Absent marker.toList reading.text.toList ∧
          c.session.promptReady = b.session.promptReady)) := by
  obtain ⟨m, more, consumes, ⟨elapsed, found, ends⟩ | ⟨reason, elapsed, missed, absent, due⟩ |
    ⟨refused, _⟩⟩ := readUntil_spec b filled limit heeds
  · obtain ⟨rfl, same⟩ := Prod.mk.inj (found.symm.trans done)
    obtain rfl := Except.ok.inj same
    have noted : consumedIn m.markPromptReady.history = consumedIn m.history := by
      simp [markPromptReady, Event.unit?]
    exact ⟨noted.trans consumes.consumed, .inl ⟨rfl, ends, rfl⟩⟩
  · obtain ⟨rfl, same⟩ := Prod.mk.inj (missed.symm.trans done)
    obtain rfl := Except.ok.inj same
    have ready := consumes.evolves.promptReady_eq (by simp) (by simp) (by simp)
    exact ⟨consumes.consumed, .inr ⟨due, absent, ready⟩⟩
  · obtain ⟨_, wrong⟩ := Prod.mk.inj (refused.symm.trans done)
    contradiction

theorem due_of_readUntil {b c : Bench} {marker : String} {limit : Millis} {heeds : Bool}
    {reading : Reading} (filled : marker ≠ "")
    (done : b.readUntil marker limit heeds = (c, .ok reading))
    (unfound : reading.reason ≠ .marker) :
    reading.reason.Due (b.clock + limit) heeds c := by
  rcases (readUntil_ok filled done).2 with ⟨found, _⟩ | ⟨due, _⟩
  · exact absurd found unfound
  · exact due

/-! ## Draining -/

/-- A drain consumes all that is pending, until the output is over or its deadline has passed. -/
theorem drainLoop_spec (deadline : Millis) (text : String) (b : Bench) :
    ∃ m more, Consumes b more m ∧
      ((drainLoop deadline text b = (m, .ok (text ++ more)) ∧ m.session.pending = [] ∧
          (m.session.outputClosed = true ∨ deadline ≤ m.clock)) ∨
        (drainLoop deadline text b = (m, .error .sealedTranscript) ∧
          b.session.transcript.isSealed = true)) := by
  -- A drain pauses like a read does, but takes each chunk whole.
  fun_induction drainLoop deadline text b with
  | case1 text b chunk session taken fault refused =>
    rcases recordChunk_spec taken with ⟨done, _⟩ | ⟨done, closed, consumes⟩
    · rw [done] at refused; contradiction
    · obtain rfl := Except.error.inj (done.symm.trans refused)
      exact ⟨_, _, consumes, .inr ⟨rfl, closed⟩⟩
  | case2 text b chunk session taken recorded ih =>
    rcases recordChunk_spec taken with ⟨_, early⟩ | ⟨done, _⟩
    · have same := early.evolves.isSealed_eq (by simp)
      obtain ⟨m, more, late, ends⟩ := ih
      refine ⟨m, chunk ++ more, early.trans late, ?_⟩
      rw [← String.append_assoc, ← same]
      exact ends
    · rw [done] at recorded; contradiction
  | case3 text b taken closed =>
    refine ⟨b, "", .refl b, .inl ⟨?_, takeChunk_eq_none taken, .inl closed⟩⟩
    rw [String.append_empty]
  | case4 text b taken _ late =>
    refine ⟨b, "", .refl b, .inl ⟨by rw [String.append_empty], takeChunk_eq_none taken, .inr ?_⟩⟩
    grind
  | case5 text b taken _ _ ih =>
    have early := Consumes.of_passes (passes_waitForOutput b (deadline - b.clock) false)
    have same := early.evolves.isSealed_eq (by simp)
    obtain ⟨m, more, late, ends⟩ := ih
    refine ⟨m, more, ?_, ?_⟩
    · have both := early.trans late
      rwa [String.empty_append] at both
    · rw [← same]; exact ends

theorem drain_of_closed {b : Bench} (taken : b.session.takeChunk = none)
    (closed : b.session.outputClosed = true) (limit : Millis) : b.drain limit = (b, .ok "") := by
  rw [drain, drainLoop]
  split
  · rename_i there
    rw [taken] at there
    contradiction
  · rw [dif_pos closed]

theorem exists_drained {b : Bench} (opened : b.session.transcript.isSealed = false)
    (limit : Millis) : ∃ c text, b.drain limit = (c, .ok text) := by
  obtain ⟨m, more, _, ⟨done, _⟩ | ⟨_, closed⟩⟩ := drainLoop_spec (b.clock + limit) "" b
  · exact ⟨_, _, done⟩
  · exact absurd (closed.symm.trans opened) (by simp)

end Bench

end ConsoleHarness
