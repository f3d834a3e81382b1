import ConsoleHarness.Proofs.Bench.Program
import ConsoleHarness.Run.Console

/-! # Nothing on the console gets lost

Output moves from the wire to the pending chunks and from there to the transcript and to the mirror.
`Bench.Recorded` says what a session shows of its history: its transcript is what was consumed, and
its length is counted right.  `Bench.Whole` says that consumed and pending output together are what
arrived.  Each step keeps both, the second one as long as nobody handles output piece by piece; so
they hold whenever the program can look.
-/

namespace ConsoleHarness.Bench

/-- What a session shows of the history before it. -/
structure Recorded (before : List Entry) (s : Session) : Prop where
  mirrored : s.transcript.text = consumedIn before
  measured : s.transcript.length = Text.units s.transcript.text
  frozen : s.transcript.isSealed = true ↔ ∃ entry ∈ before, entry.event = .sealed

/-- Consumed and pending output are all that arrived, until the transcript is sealed. -/
def Whole (before : List Entry) (s : Session) : Prop :=
  s.transcript.isSealed = false →
    s.transcript.text ++ String.join s.pending = arrivedIn before

/-- A unit was consumed while the transcript was open. -/
def ReadInTime (before : List Entry) (event : Event) : Prop :=
  (∃ unit, event = .recorded unit) → ∀ entry ∈ before, entry.event ≠ .sealed

/-- A mirror that shows everything has shown what was consumed. -/
theorem stdout_raw (history : List Entry) :
    Show.stdout { mirror := .raw, console := false } history = consumedIn history := by
  induction history with
  | nil => rfl
  | cons entry rest ih =>
    have one : Show.output { mirror := .raw, console := false } entry.event =
        consumedIn [entry] := by
      rw [consumedIn_singleton]
      cases entry.event <;> rfl
    have more : consumedIn (entry :: rest) = consumedIn [entry] ++ consumedIn rest :=
      consumedIn_append [entry] rest
    rw [more, ← one, ← ih]
    simp [Show.stdout]

/-! ## One step -/

section Step

variable {deed : Deed} {b c : Bench}

theorem Step.recorded (step : Step deed b c) (kept : Recorded b.history b.session) :
    Recorded c.history c.session := by
  obtain ⟨mirrored, measured, frozen⟩ := kept
  by_cases reads : deed = .consume
  · subst reads
    cases step with
    | consume front opened =>
      constructor
      · simp [Transcript.extend, mirrored, Event.unit?]
      · simp [Transcript.extend, measured]
      · simp [Transcript.extend, frozen]
    | lose front closed => exact ⟨mirrored, measured, frozen⟩
  · by_cases seals : deed = .seal
    · subst seals
      -- Sealing changes neither text nor length, and leaves the event that `frozen` asks for.
      cases step with
      | finish | freeze =>
        constructor
        · simp [mirrored, Event.unit?]
        · simp [measured]
        · simp
    · -- No other step touches the transcript or adds an event that the three facts look at.
      have same := step.transcript_eq reads seals
      have unread := (Evolves.single step).consumedIn_eq (by simpa using Ne.symm reads)
      have unsealed := step.saw_iff (Ne.symm seals : Event.sealed.deed ≠ deed)
      unfold Saw at unsealed
      rw [← unsealed] at frozen
      exact ⟨by rw [same, unread, mirrored], by rw [same, measured], by rw [same, frozen]⟩

theorem Evolves.recorded {deeds : List Deed} {b c : Bench} (evolves : Evolves deeds b c)
    (kept : Recorded b.history b.session) : Recorded c.history c.session :=
  evolves.invariant (fun b => Recorded b.history b.session) (fun _ _ _ _ step => step.recorded) kept

/-- What arrives at a step goes to the end of consumed and pending output; no other step but the
handling of single pieces changes what the two add up to. -/
theorem Step.balance (step : Step deed b c) (orderly : deed ≠ .handle)
    (opened : c.session.transcript.isSealed = false) :
    b.session.transcript.isSealed = false ∧
      ∃ fresh, arrivedIn c.history = arrivedIn b.history ++ fresh ∧
        c.session.transcript.text ++ String.join c.session.pending =
          b.session.transcript.text ++ String.join b.session.pending ++ fresh := by
  by_cases outside : deed = .world
  · subst outside
    cases step with
    | alike same =>
      rw [same.session] at opened
      exact ⟨opened, "", by simp [history, same.journal], by simp [same.session]⟩
    | @arrive _ chunk filled =>
      exact ⟨opened, chunk, by simp [Event.chunk?], by simp [String.append_assoc]⟩
    | pause | close | exit | abort =>
      exact ⟨opened, "", by simp [history, note, notePause, withSession, arrivedIn, Event.chunk?],
        by simp [note, notePause, withSession]⟩
  · by_cases reads : deed = .consume
    · subst reads
      cases step with
      | @consume b unit tail rest front state =>
        -- The unit goes from the front of the first chunk to the end of the transcript.
        refine ⟨state, "", by simp [Event.chunk?], ?_⟩
        rw [front]
        cases empty : tail.isEmpty with
        | true =>
          have none : tail = "" := by simpa using empty
          simp [none, Transcript.extend, String.append_assoc]
        | false => simp [Transcript.extend, String.append_assoc]
      | lose front closed =>
        -- A chunk gets lost only behind a sealed transcript.
        exact absurd (closed.symm.trans opened) (by simp)
    · by_cases seals : deed = .seal
      · subst seals
        cases step with
        | finish | freeze => exact absurd opened (by simp)
      · have same := step.transcript_eq reads seals
        have pending := step.pending_eq outside orderly reads
        have unseen := (Evolves.single step).arrivedIn_eq (by simpa using Ne.symm outside)
        rw [same] at opened ⊢
        exact ⟨opened, "", by rw [unseen, String.append_empty],
          by rw [pending, String.append_empty]⟩

/-- Up to an open transcript, what has arrived since is in the transcript or pending. -/
theorem Evolves.balance {deeds : List Deed} {b c : Bench} (evolves : Evolves deeds b c)
    (orderly : .handle ∉ deeds) (opened : c.session.transcript.isSealed = false) :
    ∃ fresh, arrivedIn c.history = arrivedIn b.history ++ fresh ∧
      c.session.transcript.text ++ String.join c.session.pending =
        b.session.transcript.text ++ String.join b.session.pending ++ fresh := by
  induction evolves with
  | refl => exact ⟨"", by simp, by simp⟩
  | tail _ last ih =>
    obtain ⟨deed, member, step⟩ := last
    obtain ⟨before, fresh, arrived, shown⟩ :=
      step.balance (ne_of_mem_of_not_mem member orderly) opened
    obtain ⟨early, arrivedEarly, shownEarly⟩ := ih before
    exact ⟨early ++ fresh, by rw [arrived, arrivedEarly, String.append_assoc],
      by rw [shown, shownEarly, String.append_assoc]⟩

theorem Step.whole (step : Step deed b c) (orderly : deed ≠ .handle)
    (kept : Whole b.history b.session) : Whole c.history c.session := by
  intro opened
  obtain ⟨before, fresh, arrived, shown⟩ := step.balance orderly opened
  rw [shown, arrived, kept before]

/-- Units are consumed only while the transcript is open. -/
theorem Step.readInTime (step : Step deed b c) (kept : Recorded b.history b.session)
    (inTime : Throughout ReadInTime b.history) : Throughout ReadInTime c.history := by
  rcases step.history_eq with same | ⟨entry, grown, kind⟩
  · rw [same]
    exact inTime
  · rw [grown]
    refine inTime.concat ?_
    rintro ⟨unit, recorded⟩
    rw [recorded] at kind
    subst kind
    cases step with
    | consume front opened =>
      -- The transcript is open, so by `frozen` no sealing can lie behind.
      intro other member ended
      rw [kept.frozen.mpr ⟨other, member, ended⟩] at opened
      contradiction
    | lose => simp at grown

end Step

/-- After the transcript was sealed no unit is consumed any more. -/
theorem units_eq_of_sealed {before later : List Entry} (inTime : Throughout ReadInTime later)
    (earlier : before <+: later) (ended : ∃ entry ∈ before, entry.event = .sealed) :
    later.filterMap (·.event.unit?) = before.filterMap (·.event.unit?) := by
  obtain ⟨news, rfl⟩ := earlier
  obtain ⟨closing, member, closes⟩ := ended
  have unread : news.filterMap (·.event.unit?) = [] := by
    rw [List.filterMap_eq_nil_iff]
    intro entry new
    -- A unit among the news would have been consumed after the sealing.
    obtain ⟨front, after, rfl⟩ := List.append_of_mem new
    have early := inTime (before ++ front) entry after (by simp)
    cases kind : entry.event with
    | recorded unit =>
      exact absurd closes (early ⟨unit, kind⟩ closing (List.mem_append_left _ member))
    | _ => rfl
  rw [List.filterMap_append, unread, List.append_nil]

/-! ## Whole sequences of calls -/

section Calls

variable {target : Target} {calls : List (Bool × Call)} {before : List Entry} {s : Session}

/-- Right after the launch nothing has happened. -/
theorem launch_shows (shown : (launch target).Shows before s) : before = [] ∧ s = {} := by
  have same := alike_launch target
  have silent : (launch target).history = [] := congrArg List.reverse same.journal
  rcases shown with ⟨_, _, split⟩ | ⟨all, now⟩
  · rw [silent] at split
    simp at split
  · exact ⟨all.symm.trans silent, now.symm.trans same.session⟩

theorem recorded_of_shows (shown : ((launch target).calls calls).Shows before s) :
    Recorded before s := by
  have evolves := evolves_calls (launch target) calls
  -- What is left to show is the start, where history and session are empty.
  refine evolves.shows (fun _ _ _ _ step => step.recorded) ?_ _ _ shown
  intro before s first
  obtain ⟨rfl, rfl⟩ := launch_shows first
  exact ⟨rfl, by simp, by simp⟩

theorem whole_of_shows (orderly : ∀ call ∈ calls, call.2.keepsOutput = true)
    (shown : ((launch target).calls calls).Shows before s) : Whole before s := by
  refine (evolves_calls_orderly (launch target) orderly).shows ?_ ?_ _ _ shown
  · intro deed member b c step
    exact step.whole (by rintro rfl; contradiction)
  · intro before s first
    obtain ⟨rfl, rfl⟩ := launch_shows first
    exact fun _ => rfl

theorem readInTime_calls (target : Target) (calls : List (Bool × Call)) :
    Throughout ReadInTime ((launch target).calls calls).history := by
  -- `ReadInTime` is kept only together with `Recorded`, which tells an open transcript.
  have both := (evolves_calls (launch target) calls).invariant
    (fun b => Recorded b.history b.session ∧ Throughout ReadInTime b.history)
    (fun _ _ _ _ step kept => ⟨step.recorded kept.1, step.readInTime kept.1 kept.2⟩)
  have first : (launch target).Shows (launch target).history (launch target).session :=
    .inr ⟨rfl, rfl⟩
  obtain ⟨silent, empty⟩ := launch_shows first
  rw [silent, empty] at both
  exact (both ⟨⟨rfl, by simp, by simp⟩, throughout_nil⟩).2

/-- However the target behaves and whatever is called: whenever the program is paused, consumed and
pending output are together what arrived, in order; the mirror has shown what the transcript holds;
the transcript only grows, and not at all once it is sealed. -/
theorem console_fidelity (target : Target) (calls : List (Bool × Call))
    {before later : List Entry} {s t : Session}
    (shown : ((launch target).calls calls).Shows before s)
    (shownLater : ((launch target).calls calls).Shows later t) (earlier : before <+: later) :
    ((∀ call ∈ calls, call.2.keepsOutput = true) → s.transcript.isSealed = false →
        s.transcript.text ++ String.join s.pending = arrivedIn before) ∧
      Show.stdout { mirror := .raw, console := false } before = s.transcript.text ∧
      s.transcript.length = Text.units s.transcript.text ∧
      (∃ rest, t.transcript.text = s.transcript.text ++ rest) ∧
      (s.transcript.isSealed = true →
        t.transcript = s.transcript ∧
          later.filterMap (·.event.unit?) = before.filterMap (·.event.unit?)) := by
  have first := recorded_of_shows shown
  have second := recorded_of_shows shownLater
  refine ⟨fun orderly => whole_of_shows orderly shown, ?_, first.measured, ?_, ?_⟩
  · rw [stdout_raw, first.mirrored]
  · obtain ⟨news, rfl⟩ := earlier
    exact ⟨consumedIn news, by rw [second.mirrored, first.mirrored, consumedIn_append]⟩
  · intro closed
    -- A sealed transcript has a sealing behind it, after which no unit is consumed.
    have ended := first.frozen.mp closed
    have inTime := (readInTime_calls target calls).of_isPrefix shownLater.isPrefix
    have units := units_eq_of_sealed inTime earlier ended
    refine ⟨?_, units⟩
    have text : t.transcript.text = s.transcript.text := by
      rw [second.mirrored, first.mirrored, consumedIn, units, consumedIn]
    have length : t.transcript.length = s.transcript.length := by
      rw [second.measured, first.measured, text]
    have sealed : t.transcript.isSealed = true := by
      obtain ⟨entry, member, closing⟩ := ended
      exact second.frozen.mpr ⟨entry, earlier.subset member, closing⟩
    calc t.transcript
      _ = ⟨t.transcript.text, t.transcript.length, t.transcript.isSealed⟩ := rfl
      _ = ⟨s.transcript.text, s.transcript.length, s.transcript.isSealed⟩ := by
        rw [text, length, sealed, closed]
      _ = s.transcript := rfl

/-- A target that says hello, and a session that ends without having read it. -/
def unheard : Bench :=
  (launch { events := [{ after := some 1, action := .emit "hello".toUTF8.toList }] }).calls
    [(true, .start), (true, .advance 2), (true, .finish), (true, .advance 2)]

theorem console_fidelity_unheard :
    "" ++ String.join ["hello"] = arrivedIn (unheard.history.take 4) ∧
      ∃ rest, unheard.session.transcript.text = "" ++ rest := by
  have waiting : unheard.Shows (unheard.history.take 4)
      { state := .running, pending := ["hello"] } :=
    .inl ⟨2, unheard.history.drop 5, by decide +kernel⟩
  have last : unheard.Shows unheard.history unheard.session := .inr ⟨rfl, rfl⟩
  obtain ⟨whole, -, -, grows, -⟩ :=
    console_fidelity _ _ waiting last (List.take_prefix 4 unheard.history)
  exact ⟨whole (by decide) rfl, grows⟩

end Calls

end ConsoleHarness.Bench
