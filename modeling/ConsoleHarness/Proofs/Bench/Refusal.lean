import ConsoleHarness.Proofs.Bench.Reading

/-! # Reads that are refused

A read is refused for its marker before it has done anything, or for a sealed transcript when the
first chunk is there.  By then it has taken the chunk, and nobody puts it back: what was pending and
what arrived meanwhile is what is still pending, but for the oldest chunk (`Bench.Drops`).  All else
that a session shows is as it was.
-/

namespace ConsoleHarness

/-- The output that arrived, chunk by chunk. -/
def chunksIn (history : List Entry) : List String := history.filterMap (·.event.chunk?)

@[simp] theorem chunksIn_append (a b : List Entry) :
    chunksIn (a ++ b) = chunksIn a ++ chunksIn b := List.filterMap_append

namespace Bench

variable {b c m : Bench}

/-! ## What arrives while nobody reads -/

/-- What the outside world does adds to the pending output what arrives, and takes nothing away. -/
theorem Step.queues (step : Step .world b c) :
    ∃ chunks, chunksIn c.history = chunksIn b.history ++ chunks ∧
      c.session.pending = b.session.pending ++ chunks := by
  cases step with
  | alike same => exact ⟨[], by simp [history, same.journal], by simp [same.session]⟩
  | @arrive _ chunk _ => exact ⟨[chunk], by simp [chunksIn, Event.chunk?], rfl⟩
  | pause | close | exit | abort =>
    exact ⟨[], by simp [history, note, notePause, withSession, chunksIn, Event.chunk?],
      by simp [note, notePause, withSession]⟩

theorem Passes.queues (passes : Passes b c) :
    ∃ chunks, chunksIn c.history = chunksIn b.history ++ chunks ∧
      c.session.pending = b.session.pending ++ chunks := by
  induction passes with
  | refl => exact ⟨[], by simp, by simp⟩
  | tail _ last ih =>
    obtain ⟨deed, member, step⟩ := last
    obtain rfl := List.mem_singleton.mp member
    obtain ⟨early, arrivedEarly, pendingEarly⟩ := ih
    obtain ⟨late, arrived, pending⟩ := step.queues
    exact ⟨early ++ late, by rw [arrived, arrivedEarly, List.append_assoc],
      by rw [pending, pendingEarly, List.append_assoc]⟩

/-! ## A chunk that is dropped -/

/-- `c` is `b` without its oldest chunk, which is nowhere else. -/
def Sheds (b : Bench) (chunk : String) (c : Bench) : Prop :=
  ∃ rest, b.session.pending = chunk :: rest ∧
    c = b.withSession { b.session with pending := rest }

/-- What is left of a read that took a chunk and could not record it: one chunk is gone of all that
was pending or has arrived, the oldest one. -/
structure Drops (b c : Bench) : Prop where
  transcript : c.session.transcript = b.session.transcript
  mirrored : c.units = b.units
  promptReady : c.session.promptReady = b.session.promptReady
  pending : ∃ news chunk, c.history = b.history ++ news ∧
    b.session.pending ++ chunksIn news = chunk :: c.session.pending

theorem Sheds.drops {chunk : String} (passes : Passes b m) (sheds : Sheds m chunk c) :
    Drops b c := by
  obtain ⟨rest, front, rfl⟩ := sheds
  refine
    { transcript := passes.transcript_eq (by simp) (by simp)
      mirrored := passes.view_eq Event.unit? fun event kind => ?_
      promptReady := passes.promptReady_eq (by simp) (by simp) (by simp)
      pending := ?_ }
  · cases event with
    | recorded unit => contradiction
    | _ => rfl
  · obtain ⟨news, grown, -⟩ := passes.news
    obtain ⟨chunks, arrived, queued⟩ := passes.queues
    rw [grown, chunksIn_append, List.append_cancel_left_eq] at arrived
    exact ⟨news, chunk, grown, by rw [arrived, ← queued]; exact front⟩

theorem Sheds.eq {chunk first : String} {rest : List String} (sheds : Sheds b chunk c)
    (front : b.session.pending = first :: rest) :
    c = b.withSession { b.session with pending := rest } := by
  obtain ⟨left, same, rfl⟩ := sheds
  rw [(List.cons.inj (same.symm.trans front)).2]

/-! ## Readers of a sealed transcript -/

section Sealed

variable {chunk : String} {session : Session} {limit : Millis} {heeds : Bool} {fault : Fault}

theorem recordChunk_of_sealed (closed : b.session.transcript.isSealed = true)
    (taken : b.session.takeChunk = some (chunk, session)) :
    ∃ c, Sheds b chunk c ∧ b.recordChunk chunk session = (c, .error .sealedTranscript) := by
  obtain ⟨rest, front, rfl⟩ := takeChunk_eq_some taken
  exact ⟨_, ⟨rest, front, rfl⟩,
    record_of_sealed (b := b.withSession { b.session with pending := rest }) closed chunk⟩

theorem recordMarked_of_sealed (closed : b.session.transcript.isSealed = true)
    (taken : b.session.takeChunk = some (chunk, session)) (count : Nat) :
    ∃ c, Sheds b chunk c ∧
      b.recordMarked chunk session count = (c, .error .sealedTranscript) := by
  obtain ⟨rest, front, rfl⟩ := takeChunk_eq_some taken
  unfold recordMarked
  dsimp only
  rw [record_of_sealed (b := b.withSession { b.session with pending := rest }) closed]
  exact ⟨_, ⟨rest, front, rfl⟩, rfl⟩

/-- A refused read has waited for a chunk, and taken it. -/
theorem sheds_of_readLoop {marker window : List Char} {deadline : Millis} {text : String}
    (closed : b.session.transcript.isSealed = true)
    (refused : readLoop marker deadline heeds window text b = (c, .error fault)) :
    fault = .sealedTranscript ∧ ∃ m chunk, Passes b m ∧ Sheds m chunk c := by
  fun_induction readLoop marker deadline heeds window text b with
  | case1 | case6 | case7 => simp at refused
  | case2 window text b _ chunk session taken count _ after fault stopped =>
    -- The marker is in this chunk.
    obtain ⟨d, sheds, done⟩ := recordMarked_of_sealed closed taken count
    cases done.symm.trans stopped
    cases refused
    exact ⟨rfl, b, chunk, .refl, sheds⟩
  | case3 window text b _ chunk session taken count _ after unit recorded =>
    obtain ⟨d, -, done⟩ := recordMarked_of_sealed closed taken count
    cases done.symm.trans recorded
  | case4 window text b _ chunk session taken _ fault stopped =>
    -- The marker is not in this chunk.
    obtain ⟨d, sheds, done⟩ := recordChunk_of_sealed closed taken
    rw [done] at stopped refused
    cases stopped
    cases refused
    exact ⟨rfl, b, chunk, .refl, sheds⟩
  | case5 window text b _ chunk session taken _ recorded ih =>
    obtain ⟨d, -, done⟩ := recordChunk_of_sealed closed taken
    rw [done] at recorded
    cases recorded
  | case8 window text b _ _ _ _ ih =>
    -- Nothing is there yet: the read waits, and is refused later.
    have waited := passes_waitForOutput b (deadline - b.clock) heeds
    obtain ⟨same, m, chunk, passes, sheds⟩ :=
      ih ((waited.isSealed_eq (by simp)).trans closed) refused
    exact ⟨same, m, chunk, waited.trans passes, sheds⟩

theorem sheds_of_drainLoop {deadline : Millis} {text : String}
    (closed : b.session.transcript.isSealed = true)
    (refused : drainLoop deadline text b = (c, .error fault)) :
    fault = .sealedTranscript ∧ ∃ m chunk, Passes b m ∧ Sheds m chunk c := by
  fun_induction drainLoop deadline text b with
  | case1 text b chunk session taken fault stopped =>
    obtain ⟨d, sheds, done⟩ := recordChunk_of_sealed closed taken
    rw [done] at stopped refused
    cases stopped
    cases refused
    exact ⟨rfl, b, chunk, .refl, sheds⟩
  | case2 text b chunk session taken recorded ih =>
    obtain ⟨d, -, done⟩ := recordChunk_of_sealed closed taken
    rw [done] at recorded
    cases recorded
  | case3 | case4 => simp at refused
  | case5 text b _ _ _ ih =>
    have waited := passes_waitForOutput b (deadline - b.clock) false
    obtain ⟨same, m, chunk, passes, sheds⟩ :=
      ih ((waited.isSealed_eq (by simp)).trans closed) refused
    exact ⟨same, m, chunk, waited.trans passes, sheds⟩

theorem readUntil_empty (b : Bench) (limit : Millis) (heeds : Bool) :
    b.readUntil "" limit heeds = (b, .error .emptyMarker) := rfl

/-- A refused read of a marker has waited for a chunk, and dropped it. -/
theorem drops_of_readUntil {marker : String} (filled : marker ≠ "")
    (refused : b.readUntil marker limit heeds = (c, .error fault)) :
    fault = .sealedTranscript ∧ b.session.transcript.isSealed = true ∧ Drops b c := by
  have closed : b.session.transcript.isSealed = true := by
    by_contra opened
    obtain ⟨d, reading, done⟩ := exists_reading (by simpa using opened) filled limit heeds
    rw [done] at refused
    cases refused
  rw [readUntil, if_neg (by simpa using filled)] at refused
  split at refused
  · rename_i after stopped looped
    cases refused
    obtain ⟨same, m, chunk, passes, sheds⟩ := sheds_of_readLoop closed looped
    exact ⟨same, closed, sheds.drops passes⟩
  · cases refused

theorem drops_of_drain (refused : b.drain limit = (c, .error fault)) :
    fault = .sealedTranscript ∧ b.session.transcript.isSealed = true ∧ Drops b c := by
  have closed : b.session.transcript.isSealed = true := by
    by_contra opened
    obtain ⟨d, text, done⟩ := exists_drained (by simpa using opened) limit
    rw [done] at refused
    cases refused
  obtain ⟨same, m, chunk, passes, sheds⟩ := sheds_of_drainLoop closed refused
  exact ⟨same, closed, sheds.drops passes⟩

/-- A chunk that is there already is dropped at once. -/
theorem readUntil_of_sealed {marker : String} {rest : List String} (filled : marker ≠ "")
    (closed : b.session.transcript.isSealed = true) (front : b.session.pending = chunk :: rest)
    (unheeded : (heeds && b.aborted) = false) (limit : Millis) :
    b.readUntil marker limit heeds =
      (b.withSession { b.session with pending := rest }, .error .sealedTranscript) := by
  have taken : b.session.takeChunk = some (chunk, { b.session with pending := rest }) := by
    rw [Session.takeChunk, front]
  rw [readUntil, if_neg (by simpa using filled), readLoop_of_some unheeded taken]
  cases Marker.endIn? marker.toList [] 0 chunk.toList with
  | some count =>
    obtain ⟨d, sheds, done⟩ := recordMarked_of_sealed closed taken count
    dsimp only
    rw [done, sheds.eq front]
  | none =>
    obtain ⟨d, sheds, done⟩ := recordChunk_of_sealed closed taken
    dsimp only
    rw [done, sheds.eq front]

theorem drain_of_sealed {rest : List String} (closed : b.session.transcript.isSealed = true)
    (front : b.session.pending = chunk :: rest) (limit : Millis) :
    b.drain limit =
      (b.withSession { b.session with pending := rest }, .error .sealedTranscript) := by
  rw [drain, drainLoop]
  split
  · rename_i first session taken
    obtain ⟨d, sheds, done⟩ := recordChunk_of_sealed closed taken
    rw [done, sheds.eq front]
  · rename_i taken
    rw [takeChunk_eq_none taken] at front
    contradiction

/-- A read is refused for an empty marker, and then nothing has happened; or for a sealed transcript,
and then the transcript, what was mirrored and the prompt are as they were, but one chunk is gone: the
oldest of what was pending or has arrived.  If a chunk is pending when a read of a sealed transcript
begins, it is this one, and nothing else happens. -/
theorem refused_read_drops_chunk (b : Bench) :
    (∀ marker limit heeds c fault, b.readUntil marker limit heeds = (c, .error fault) →
      (marker = "" ∧ fault = .emptyMarker ∧ c = b) ∨
        (marker ≠ "" ∧ fault = .sealedTranscript ∧ b.session.transcript.isSealed = true ∧
          Drops b c)) ∧
      (∀ limit c fault, b.drain limit = (c, .error fault) →
        fault = .sealedTranscript ∧ b.session.transcript.isSealed = true ∧ Drops b c) ∧
      (∀ limit heeds, b.readUntil "" limit heeds = (b, .error .emptyMarker)) ∧
      ∀ chunk rest, b.session.pending = chunk :: rest → b.session.transcript.isSealed = true →
        (∀ marker limit heeds, marker ≠ "" → (heeds && b.aborted) = false →
          b.readUntil marker limit heeds =
            (b.withSession { b.session with pending := rest }, .error .sealedTranscript)) ∧
        ∀ limit, b.drain limit =
          (b.withSession { b.session with pending := rest }, .error .sealedTranscript) := by
  refine ⟨fun marker limit heeds c fault refused => ?_, fun _ _ _ => drops_of_drain,
    readUntil_empty b, fun chunk rest front closed => ⟨?_, drain_of_sealed closed front⟩⟩
  · by_cases empty : marker = ""
    · subst empty
      cases refused
      exact .inl ⟨rfl, rfl, rfl⟩
    · exact .inr ⟨empty, drops_of_readUntil empty refused⟩
  · intro marker limit heeds filled unheeded
    exact readUntil_of_sealed filled closed front unheeded limit

/-- A session that was finished, and a word of its target that comes after. -/
def late : Bench :=
  (launch {}).calls
    [(true, .start), (true, .finish), (true, .happen { action := .emit "late".toUTF8.toList })]

/-- The word is pending; a read that is refused takes it away, and so does a drain. -/
theorem refused_read_keeps_nothing :
    late.session.pending = ["late"] ∧
      (∃ c, late.readUntil "$ " 10 true = (c, .error .sealedTranscript) ∧
        c.session.pending = []) ∧
      ∃ c, late.drain 10 = (c, .error .sealedTranscript) ∧ c.session.pending = [] := by
  have front : late.session.pending = ["late"] := by decide +kernel
  have closed : late.session.transcript.isSealed = true := by decide +kernel
  have unheeded : (true && late.aborted) = false := by decide +kernel
  exact ⟨front, ⟨_, readUntil_of_sealed (by decide) closed front unheeded 10, rfl⟩,
    _, drain_of_sealed closed front 10, rfl⟩

end Sealed

end Bench

end ConsoleHarness
