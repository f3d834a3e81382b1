import ConsoleHarness.Proofs.Bench.Fidelity
import ConsoleHarness.Proofs.Bench.Interrupt

/-! # A read is a scan

What is pending before a read and what arrives while it runs make up one text, whose chunks do not
matter.  `Bench.Scans` says what the read comes to in terms of that text alone: what it consumes and
what it leaves pending are this text, cut where the naive reader `Marker.scan` stops.  So two reads
of the same text agree, however it was cut and whenever its chunks came.
-/

namespace ConsoleHarness

theorem Transcript.extend_extend (t : Transcript) (first second : String) :
    (t.extend first).extend second = t.extend (first ++ second) := by
  simp [extend, String.append_assoc, Nat.add_assoc]

@[simp] theorem Transcript.extend_empty (t : Transcript) : t.extend "" = t := by
  simp [extend]

namespace Bench

/-- The text that a call can read: what is pending before it, and what arrives while it runs. -/
def available (b : Bench) (news : List Entry) : String :=
  String.join b.session.pending ++ arrivedIn news

/-! ## What is consumed stands in the transcript -/

section Consumed

variable {deed : Deed} {deeds : List Deed} {b c : Bench}

theorem Step.extends (step : Step deed b c) (unsealed : deed ≠ .seal)
    (opened : b.session.transcript.isSealed = false) :
    ∃ unit, consumedIn c.history = consumedIn b.history ++ unit ∧
      c.session.transcript = b.session.transcript.extend unit := by
  by_cases reads : deed = .consume
  · subst reads
    cases step with
    | @consume _ unit _ _ _ _ => exact ⟨unit, by simp [Event.unit?], rfl⟩
    | lose _ closed => exact absurd (closed.symm.trans opened) (by simp)
  · have unread := (Evolves.single step).consumedIn_eq (by simpa using Ne.symm reads)
    exact ⟨"", by rw [unread, String.append_empty], by
      rw [step.transcript_eq reads unsealed, Transcript.extend_empty]⟩

/-- While the transcript is open, it grows by what is consumed. -/
theorem Evolves.extends (evolves : Evolves deeds b c) (unsealed : .seal ∉ deeds)
    (opened : b.session.transcript.isSealed = false) :
    ∃ text, consumedIn c.history = consumedIn b.history ++ text ∧
      c.session.transcript = b.session.transcript.extend text := by
  induction evolves with
  | refl => exact ⟨"", by simp, by simp⟩
  | @tail d e first last ih =>
    obtain ⟨deed, member, step⟩ := last
    obtain ⟨text, consumed, grown⟩ := ih
    have still := (Evolves.isSealed_eq first unsealed).trans opened
    obtain ⟨unit, more, longer⟩ := step.extends (ne_of_mem_of_not_mem member unsealed) still
    refine ⟨text ++ unit, ?_, ?_⟩
    · rw [more, consumed, String.append_assoc]
    · rw [longer, grown, Transcript.extend_extend]

/-- What a call consumes goes to the transcript; with what it leaves pending it is what was
available to the call. -/
theorem Evolves.conserved (evolves : Evolves deeds b c) (orderly : .handle ∉ deeds)
    (unsealed : .seal ∉ deeds) (opened : b.session.transcript.isSealed = false)
    {news : List Entry} (grown : c.history = b.history ++ news) :
    c.session.transcript = b.session.transcript.extend (consumedIn news) ∧
      consumedIn news ++ String.join c.session.pending = b.available news := by
  obtain ⟨text, consumed, transcript⟩ := evolves.extends unsealed opened
  rw [grown, consumedIn_append, String.append_right_inj] at consumed
  obtain ⟨fresh, arrived, shown⟩ :=
    evolves.balance orderly ((evolves.isSealed_eq unsealed).trans opened)
  rw [grown, arrivedIn_append, String.append_right_inj] at arrived
  rw [transcript, ← arrived] at shown
  simp only [Transcript.extend, String.append_assoc, String.append_right_inj] at shown
  exact ⟨consumed ▸ transcript, consumed ▸ shown⟩

end Consumed

/-! ## What a read comes to -/

/-- What a read from `b` to `c` comes to, in terms of the text available to it. -/
structure Scans (marker : String) (heeds : Bool) (b : Bench) (text : String) (c : Bench)
    (reading : Reading) : Prop where
  conserved : reading.text ++ String.join c.session.pending = text
  recorded : c.session.transcript = b.session.transcript.extend reading.text
  ready : c.session.promptReady = (reading.found || b.session.promptReady)
  /-- The text is cut where the naive reader stops. -/
  scanned : reading.reason ≠ .interrupted →
    Marker.scan marker.toList [] text.toList =
      if reading.found then some (reading.text.toList, (String.join c.session.pending).toList)
      else none
  found_iff : reading.reason ≠ .interrupted →
    (reading.found = true ↔ ∃ start, start <+: text.toList ∧ marker.toList <:+ start)
  shortest : reading.found = true → Marker.EndsFirst marker.toList reading.text.toList
  missed : reading.found = false → Marker.Absent marker.toList reading.text.toList
  exhausted : reading.found = false → reading.reason ≠ .interrupted → c.session.pending = []
  cancelled : reading.reason = .interrupted → (heeds && c.aborted) = true
  deaf : (heeds && b.aborted) = true → c = b ∧ reading = ⟨.interrupted, "", 0⟩

section Scans

variable {marker : String} {limit : Millis} {heeds : Bool} {b c : Bench} {text : String}
  {reading : Reading}

/-- A call that heeds a cancellation from before it does nothing. -/
theorem deaf_of_readUntil (filled : marker ≠ "")
    (done : b.readUntil marker limit heeds = (c, .ok reading))
    (cancelled : (heeds && b.aborted) = true) :
    c = b ∧ reading = ⟨.interrupted, "", 0⟩ := by
  obtain ⟨rfl, aborted⟩ := by simpa using cancelled
  rw [readUntil_of_aborted aborted filled limit, Rat.sub_self] at done
  obtain ⟨rfl, same⟩ := Prod.mk.inj done
  exact ⟨rfl, (Except.ok.inj same).symm⟩

/-- A read of an open transcript scans what is available to it. -/
theorem scans_of_readUntil (opened : b.session.transcript.isSealed = false) (filled : marker ≠ "")
    (done : b.readUntil marker limit heeds = (c, .ok reading)) {news : List Entry}
    (grown : c.history = b.history ++ news) :
    Scans marker heeds b (b.available news) c reading := by
  have deaf := deaf_of_readUntil filled done
  have evolves := evolves_readUntil b marker limit heeds
  rw [done] at evolves
  obtain ⟨recorded, conserved⟩ := evolves.conserved (by simp) (by simp) opened grown
  obtain ⟨consumed, ended⟩ := readUntil_ok filled done
  rw [grown, consumedIn_append, String.append_right_inj] at consumed
  rw [consumed] at recorded conserved
  rcases ended with ⟨marked, ends, ready⟩ | ⟨due, absent, ready⟩
  · have found : reading.found = true := by simp [Reading.found, marked]
    have whole := congrArg String.toList conserved.symm
    rw [String.toList_append] at whole
    refine
      { conserved, recorded, deaf
        ready := by rw [ready, found, Bool.true_or]
        scanned := fun _ => ?_
        found_iff := fun _ => iff_of_true found ⟨reading.text.toList, ?_, ends.1⟩
        shortest := fun _ => ends
        missed := fun unfound => absurd (found.symm.trans unfound) (by simp)
        exhausted := fun unfound => absurd (found.symm.trans unfound) (by simp)
        cancelled := fun interrupted => absurd (marked.symm.trans interrupted) (by simp) }
    · have nothing : Marker.Absent marker.toList [] := Marker.absent_nil (by simpa using filled)
      rw [whole, found, if_pos rfl]
      exact Marker.scan_of_endsFirst _ nothing ends
    · rw [whole]
      exact List.prefix_append _ _
  · have unfound : reading.found = false := by simpa [Reading.found] using due.unfound
    -- Then the text of the call is all that was available to it, unless it was cancelled.
    have whole : reading.reason ≠ .interrupted → b.available news = reading.text := by
      intro calm
      rw [← conserved, due.exhausted calm, String.join_nil, String.append_empty]
    refine
      { conserved, recorded, deaf
        ready := by rw [ready, unfound, Bool.false_or]
        scanned := fun calm => ?_
        found_iff := fun calm => iff_of_false (by simp [unfound]) ?_
        shortest := fun found => absurd (unfound.symm.trans found) (by simp)
        missed := fun _ => absent
        exhausted := fun _ => due.exhausted
        cancelled := fun interrupted => ?_ }
    · rw [unfound, whole calm]
      exact Marker.scan_of_absent absent
    · rintro ⟨start, before, ends⟩
      rw [whole calm] at before
      exact absent start before ends
    · rw [interrupted] at due
      simpa [ReadEnd.Due] using due

/-- The text that is available settles what a read comes to; how it was cut does not matter, and
neither does what comes behind the marker. -/
theorem Scans.agree {b' c' : Bench} {heeds' : Bool} {reading' : Reading} {more : String}
    (one : Scans marker heeds b text c reading)
    (other : Scans marker heeds' b' (text ++ more) c' reading')
    (calm : reading.reason ≠ .interrupted) (calm' : reading'.reason ≠ .interrupted)
    (enough : reading.found = true ∨ more = "") :
    reading'.found = reading.found ∧ reading'.text = reading.text ∧
      String.join c'.session.pending = String.join c.session.pending ++ more := by
  have first := one.scanned calm
  have second := other.scanned calm'
  rw [String.toList_append] at second
  cases found : reading.found with
  | true =>
    rw [found, if_pos rfl] at first
    rw [Marker.scan_append more.toList first] at second
    cases found' : reading'.found with
    | true =>
      rw [found', if_pos rfl] at second
      obtain ⟨text, rest⟩ := Prod.mk.inj (Option.some.inj second)
      refine ⟨rfl, String.toList_inj.mp text.symm, String.toList_inj.mp ?_⟩
      rw [String.toList_append]
      exact rest.symm
    | false => rw [found'] at second; contradiction
  | false =>
    obtain rfl := enough.resolve_left (by simp [found])
    have unfound : reading'.found = false := by
      rw [Bool.eq_false_iff, Ne, other.found_iff calm', String.append_empty, ← one.found_iff calm,
        found]
      simp
    have left := one.exhausted found calm
    have left' := other.exhausted unfound calm'
    have text := one.conserved
    have text' := other.conserved
    rw [left, String.join_nil, String.append_empty] at text
    rw [left', String.join_nil, String.append_empty, String.append_empty] at text'
    exact ⟨unfound, text'.trans text.symm, by rw [left, left', String.append_empty]⟩

/-- An undisturbed read. -/
structure Reads (marker : String) (b : Bench) (news : List Entry) (c : Bench) (reading : Reading) :
    Prop where
  opened : b.session.transcript.isSealed = false
  done : ∃ limit heeds, b.readUntil marker limit heeds = (c, .ok reading)
  grown : c.history = b.history ++ news
  calm : reading.reason ≠ .interrupted

/-- However the pending text and what arrives during the call are cut into chunks, a read gives what
the naive reader gives: the shortest part of the text that ends with the marker, with the rest still
pending, or the whole text if no part of it does.  Another read of the same text, or of one that
goes on behind the marker, agrees with it. -/
theorem readUntil_refines_scan (b : Bench) (opened : b.session.transcript.isSealed = false)
    {marker : String} (filled : marker ≠ "") (limit : Millis) (heeds : Bool) :
    ∃ c reading news, b.readUntil marker limit heeds = (c, .ok reading) ∧
      c.history = b.history ++ news ∧ Scans marker heeds b (b.available news) c reading ∧
      ∀ b' news' c' reading' more, reading.reason ≠ .interrupted →
        Reads marker b' news' c' reading' → b'.available news' = b.available news ++ more →
        (reading.found = true ∨ more = "") →
        reading'.found = reading.found ∧ reading'.text = reading.text ∧
          String.join c'.session.pending = String.join c.session.pending ++ more ∧
          (b'.session.transcript = b.session.transcript →
            c'.session.transcript = c.session.transcript) := by
  obtain ⟨c, reading, done⟩ := exists_reading opened filled limit heeds
  have evolves := evolves_readUntil b marker limit heeds
  rw [done] at evolves
  obtain ⟨news, grown, _⟩ := evolves.news
  have scans := scans_of_readUntil opened filled done grown
  refine ⟨c, reading, news, done, grown, scans, ?_⟩
  intro b' news' c' reading' more calm reads same enough
  obtain ⟨opened', ⟨limit', heeds', done'⟩, grown', calm'⟩ := reads
  have scans' := scans_of_readUntil opened' filled done' grown'
  rw [same] at scans'
  obtain ⟨found, text, rest⟩ := scans.agree scans' calm calm' enough
  refine ⟨found, text, rest, fun equal => ?_⟩
  rw [scans'.recorded, scans.recorded, equal, text]

/-- A prompt that overlaps itself, cut into four chunks. -/
def shredded : Bench := { session := { pending := ["aba", "b", "ab", "c rest"] } }

theorem readUntil_refines_scan_shredded :
    ∃ c reading rest, shredded.readUntil "ababc" 5 false = (c, .ok reading) ∧
      reading.found = true ∧ reading.text = "abababc" ∧
      String.join c.session.pending = " rest" ++ rest ∧ c.session.promptReady = true := by
  obtain ⟨c, reading, news, done, _, scans, _⟩ :=
    readUntil_refines_scan shredded rfl (show "ababc" ≠ "" by decide) 5 false
  have calm : reading.reason ≠ .interrupted := fun stopped => by simpa using scans.cancelled stopped
  have here : Marker.scan "ababc".toList [] "abababc rest".toList =
      some ("abababc".toList, " rest".toList) := by decide
  have scanned := scans.scanned calm
  have text : shredded.available news = "abababc rest" ++ arrivedIn news := rfl
  rw [text, String.toList_append, Marker.scan_append _ here] at scanned
  cases found : reading.found with
  | true =>
    rw [found, if_pos rfl] at scanned
    obtain ⟨front, behind⟩ := Prod.mk.inj (Option.some.inj scanned)
    rw [← String.toList_append] at behind
    refine ⟨c, reading, arrivedIn news, done, found, (String.toList_inj.mp front).symm,
      (String.toList_inj.mp behind).symm, ?_⟩
    rw [scans.ready, found]
    rfl
  | false => rw [found] at scanned; contradiction

end Scans

end Bench

end ConsoleHarness
