import ConsoleHarness.Proofs.Bench.Turns

/-! # A session goes one way

In whatever order calls and events come: a session starts once and ends once, what is final in it
stays as it is (`Bench.Onward`), and a text is handed over only by a line that uses up a prompt
(`Bench.Sparing`).  Each of the two is shown of a turn and holds along turns by induction;
`Bench.Lawful` is what both amount to for a session that was launched.
-/

namespace ConsoleHarness

/-- How states follow one another. -/
inductive SessionState.Leads : SessionState → SessionState → Prop
  | stay {s} : Leads s s
  | begin {t} : Leads .created t
  | finish {t} (ended : t.isTerminal = true) : Leads .running t

theorem SessionState.Leads.trans {r s t : SessionState} (first : r.Leads s) (second : s.Leads t) :
    r.Leads t := by
  cases first with
  | stay => exact second
  | begin => exact .begin
  | finish ended =>
    cases second with
    | stay => exact .finish ended
    | begin | finish => contradiction

/-! ## Prompts since the last text -/

/-- One more event, in the reading of `armedIn`. -/
def armedAfter (armed : Bool) : Event → Bool
  | .prompted => true
  | .wrote .. => false
  | _ => armed

/-- Whether a prompt was noted since the last text was handed over. -/
def armedIn (history : List Entry) : Bool :=
  history.foldl (fun armed entry => armedAfter armed entry.event) false

@[simp] theorem armedIn_concat (history : List Entry) (entry : Entry) :
    armedIn (history ++ [entry]) = armedAfter (armedIn history) entry.event := by
  simp [armedIn]

theorem armedAfter_of_not_isCue {event : Event} (idle : event.isCue = false) (armed : Bool) :
    armedAfter armed event = armed := by
  cases event with
  | prompted | wrote => contradiction
  | _ => rfl

/-- A prompt that was not there before was noted since. -/
theorem exists_prompted_of_armed {history news : List Entry} (before : armedIn history = false)
    (after : armedIn (history ++ news) = true) :
    ∃ front moment back, news = front ++ ⟨moment, .prompted⟩ :: back := by
  induction news using List.reverseRecOn with
  | nil => rw [List.append_nil, before] at after; contradiction
  | append_singleton front last ih =>
    rw [← List.append_assoc, armedIn_concat] at after
    obtain ⟨moment, event⟩ := last
    cases cue : event.isCue with
    | true =>
      cases event with
      | prompted => exact ⟨front, moment, [], rfl⟩
      | wrote => simp [armedAfter] at after
      | _ => contradiction
    | false =>
      rw [armedAfter_of_not_isCue cue] at after
      obtain ⟨a, earlier, b, rfl⟩ := ih after
      exact ⟨a, earlier, b ++ [⟨moment, event⟩], by simp⟩

/-- A text is handed over only when a prompt was noted since the one before. -/
def Afforded (before : List Entry) (event : Event) : Prop :=
  event.handed?.isSome → armedIn before = true

namespace Bench

section OneWay

variable {b c d : Bench} {deeds : List Deed}

/-! ## What is final -/

/-- `c` can come after `b`: its state follows, and what is final in `b` is as it was. -/
structure Onward (b c : Bench) : Prop where
  leads : b.session.state.Leads c.session.state
  frozen : b.session.transcript.isSealed = true → c.session.transcript.isSealed = true
  closed : b.session.outputClosed = true → c.session.outputClosed = true
  killed : b.session.killRequested = true → c.session.killRequested = true
  exit : ∀ exit, b.session.exit = some exit → c.session.exit = some exit

theorem Onward.refl (b : Bench) : Onward b b := ⟨.stay, id, id, id, fun _ known => known⟩

theorem Onward.trans (first : Onward b c) (second : Onward c d) : Onward b d where
  leads := first.leads.trans second.leads
  frozen := second.frozen ∘ first.frozen
  closed := second.closed ∘ first.closed
  killed := second.killed ∘ first.killed
  exit := fun exit known => second.exit exit (first.exit exit known)

theorem Step.onward {deed : Deed} (step : Step deed b c) : Onward b c := by
  have exit : ∀ exit, b.session.exit = some exit → c.session.exit = some exit :=
    fun _ => step.exit_stays
  cases step with
  | alike same =>
    refine ⟨?_, ?_, ?_, ?_, exit⟩ <;> rw [same.session]
    · exact .stay
    all_goals exact id
  | close => exact ⟨.stay, id, fun _ => rfl, id, exit⟩
  | start created =>
    refine ⟨?_, id, id, id, exit⟩
    rw [created]
    exact .begin
  | mark => exact ⟨.stay, id, id, fun _ => rfl, exit⟩
  | finish =>
    refine ⟨?_, fun _ => rfl, id, id, exit⟩
    -- Whichever terminal state would be chosen, a session that has one keeps it.
    simp only [session_note, session_withSession]
    cases b.session.state with
    | created => exact .begin
    | running => exact .finish (by cases b.session.killRequested <;> rfl)
    | completed | killed => exact .stay
  | freeze => exact ⟨.stay, fun _ => rfl, id, id, exit⟩
  | _ => exact ⟨.stay, id, id, id, exit⟩

theorem Evolves.onward (evolves : Evolves deeds b c) : Onward b c := by
  induction evolves with
  | refl => exact .refl b
  | tail _ last ih =>
    obtain ⟨_, _, step⟩ := last
    exact ih.trans step.onward

theorem Turn.onward (turn : Turn b c) : Onward b c := by
  cases turn.comesTo with
  | silent evolves => exact evolves.onward
  | prompt => exact Step.prompt.onward
  | sends sends =>
    obtain ⟨k, accepted, handed, -, passes⟩ := sends.spec
    exact handed.onward.trans passes.onward
  | written => exact Step.complete.onward
  | exit unknown =>
    -- No exit is known that could be lost.
    refine ⟨.stay, id, id, id, fun exit known => ?_⟩
    rw [unknown] at known
    contradiction

theorem Interleaved.onward (turns : Interleaved b c) : Onward b c := by
  induction turns with
  | refl => exact .refl b
  | tail _ last ih => exact ih.trans last.onward

/-! ## Sealing -/

/-- A session that has ended has a sealed transcript. -/
def Ended (b : Bench) : Prop :=
  b.session.state.isTerminal = true → b.session.transcript.isSealed = true

theorem Step.ended {deed : Deed} (step : Step deed b c) (ended : b.Ended) : c.Ended := by
  cases step with
  | alike same => rw [Ended, same.session]; exact ended
  | start => exact fun terminal => absurd terminal (by simp [SessionState.isTerminal])
  | finish | freeze => exact fun _ => rfl
  | _ => exact ended

theorem Evolves.ended (evolves : Evolves deeds b c) (ended : b.Ended) : c.Ended :=
  evolves.invariant Ended (fun _ _ _ _ step => step.ended) ended

theorem Turn.ended (turn : Turn b c) (ended : b.Ended) : c.Ended := by
  cases turn.comesTo with
  | silent evolves => exact evolves.ended ended
  | sends sends =>
    obtain ⟨k, accepted, handed, -, passes⟩ := sends.spec
    exact passes.ended (handed.ended ended)
  | prompt | written | exit => exact ended

/-! ## Texts and prompts -/

/-- Every text that was handed over had a prompt, and so has the next one. -/
structure Sparing (b : Bench) : Prop where
  armed : b.session.promptReady = true → armedIn b.history = true
  afforded : Throughout Afforded b.history

/-- An event that is neither a text nor a prompt does no harm. -/
theorem Sparing.idle (sparing : b.Sparing) {entry : Entry}
    (grown : c.history = b.history ++ [entry]) (idle : entry.event.isCue = false)
    (ready : c.session.promptReady = true → b.session.promptReady = true) : c.Sparing where
  armed := by
    intro now
    rw [grown, armedIn_concat, armedAfter_of_not_isCue idle]
    exact sparing.armed (ready now)
  afforded := by
    rw [grown]
    refine sparing.afforded.concat fun handed => ?_
    cases event : entry.event with
    | wrote => rw [event] at idle; contradiction
    | _ => rw [event] at handed; contradiction

theorem Sparing.prompt (sparing : b.Sparing) : b.markPromptReady.Sparing where
  armed := by
    intro _
    rw [markPromptReady, history_note, armedIn_concat]
    rfl
  afforded := by
    rw [markPromptReady, history_note]
    exact sparing.afforded.concat fun handed => absurd handed (by simp [Event.handed?])

/-- No step but a prompt makes a prompt ready. -/
theorem Step.ready_of_ready {deed : Deed} (step : Step deed b c) (unprompted : deed ≠ .prompt)
    (ready : c.session.promptReady = true) : b.session.promptReady = true := by
  cases step with
  | alike same => rw [← same.session]; exact ready
  | prompt => contradiction
  | claim | finish => contradiction
  | _ => exact ready

theorem Step.sparing {deed : Deed} (step : Step deed b c) (unwritten : deed ≠ .write)
    (unprompted : deed ≠ .prompt) (sparing : b.Sparing) : c.Sparing := by
  have ready := step.ready_of_ready unprompted
  rcases step.history_eq with same | ⟨entry, grown, kind⟩
  · refine ⟨fun now => ?_, ?_⟩
    · rw [same]; exact sparing.armed (ready now)
    · rw [same]; exact sparing.afforded
  · have among : entry.event.deed ∈ [deed] := List.mem_singleton.mpr kind
    have idle : entry.event.isCue = false :=
      isCue_of_deed among (by simpa using unwritten.symm) (by simpa using unprompted.symm)
    exact sparing.idle grown idle ready

theorem Evolves.sparing (evolves : Evolves deeds b c) (unwritten : .write ∉ deeds)
    (unprompted : .prompt ∉ deeds) (sparing : b.Sparing) : c.Sparing :=
  evolves.invariant Sparing (fun _ member _ _ step =>
    step.sparing (ne_of_mem_of_not_mem member unwritten)
      (ne_of_mem_of_not_mem member unprompted)) sparing

/-- A line that is sent uses the prompt up. -/
theorem Sends.sparing {text : String} (sends : b.Sends text c) (sparing : b.Sparing) :
    c.Sparing := by
  obtain ⟨k, accepted, -, noted, passes⟩ := sends.spec
  refine ⟨fun ready => ?_, ?_⟩
  · rw [sends.spent] at ready
    contradiction
  · refine passes.throughout (fun before event kind handed => ?_) ?_
    · cases event with
      | wrote => simp [Event.deed] at kind
      | _ => contradiction
    · rw [noted]
      exact sparing.afforded.concat fun _ => sparing.armed sends.ready

theorem Turn.sparing (turn : Turn b c) (sparing : b.Sparing) : c.Sparing := by
  cases turn.comesTo with
  | silent evolves => exact evolves.sparing (by simp) (by simp) sparing
  | prompt => exact sparing.prompt
  | sends sends => exact sends.sparing sparing
  | written => exact sparing.idle (history_note ..) rfl id
  | exit => exact sparing.idle (history_note ..) rfl id

/-- Between two texts a prompt was noted. -/
theorem prompted_between {history before between after : List Entry} {first second : Entry}
    (afforded : Throughout Afforded history)
    (split : history = before ++ first :: (between ++ second :: after))
    (handed : first.event.handed?.isSome) (again : second.event.handed?.isSome) :
    ∃ front moment back, between = front ++ ⟨moment, .prompted⟩ :: back := by
  have used : armedIn (before ++ [first]) = false := by
    rw [armedIn_concat]
    cases event : first.event with
    | wrote => rfl
    | _ => rw [event] at handed; contradiction
  have armed := afforded (before ++ first :: between) second after (by rw [split]; simp) again
  exact exists_prompted_of_armed used (by simpa using armed)

/-! ## Calls that are refused -/

theorem start_cases (b : Bench) :
    (b.session.state = .created ∧ b.start.2 = .ok () ∧ b.start.1.session.state = .running) ∨
      (b.session.state ≠ .created ∧
        b.start = (b, .error (.startedTwice b.session.state))) := by
  unfold start Session.start
  by_cases created : b.session.state = .created
  · simp [created]
  · simp [created]

theorem claimPrompt_eq_error_iff (s : Session) (line : String) :
    (∃ fault, s.claimPrompt line = .error fault) ↔
      ¬ (s.state = .running ∧ s.promptReady = true) := by
  unfold Session.claimPrompt
  by_cases running : s.state = .running
  · cases s.promptReady <;> simp [running]
  · simp [running]

/-- What is true of a session that has come from its launch by calls and events in any order. -/
structure Lawful (target : Target) (b : Bench) : Prop where
  ended : b.session.state.isTerminal = true → b.session.transcript.isSealed = true
  /-- A session that could be started runs, and cannot be started again. -/
  started : b.session.state = .created → b.start.2 = .ok () ∧
    b.start.1.session.state = .running ∧
    ∀ c, Interleaved b.start.1 c → c.start = (c, .error (.startedTwice c.session.state))
  /-- A start that is refused changes nothing. -/
  unstarted : b.session.state ≠ .created → b.start = (b, .error (.startedTwice b.session.state))
  /-- A line is sent where the session runs and has its prompt, and the prompt is used up, whatever
  comes of the write. -/
  sent : b.session.state = .running → b.session.promptReady = true → ∀ line,
    (∀ fault, (b.sendLine line).2 ≠ .error (.fault fault)) ∧
      (b.sendLine line).1.session.promptReady = false
  /-- Elsewhere a line is refused, and changes nothing. -/
  unsent : ¬ (b.session.state = .running ∧ b.session.promptReady = true) → ∀ line,
    ∃ fault, b.session.claimPrompt line = .error fault ∧
      b.sendLine line = (b, .error (.fault fault))
  /-- Behind every text that the target was handed is a line that was sent. -/
  handed : ∀ before moment text accepted after,
    b.history = before ++ ⟨moment, .wrote text accepted⟩ :: after →
      ∃ m n, Interleaved (launch target) m ∧ m.history = before ∧ m.Sends text n ∧
        Interleaved n b
  /-- Between two texts the program noted a prompt. -/
  spared : ∀ before first between second after,
    b.history = before ++ first :: (between ++ second :: after) →
    first.event.handed?.isSome → second.event.handed?.isSome →
      ∃ front, front <+: between ∧ ∃ m, Interleaved (launch target) m ∧
        m.history = before ++ first :: front ∧ Interleaved m.markPromptReady b

theorem ended_of_launch {target : Target} (begun : Interleaved (launch target) b) : b.Ended := by
  induction begun with
  | refl =>
    rw [Ended, (alike_launch target).session]
    exact fun terminal => Bool.noConfusion terminal
  | tail _ last ih => exact last.ended ih

theorem history_launch (target : Target) : (launch target).history = [] :=
  congrArg List.reverse (alike_launch target).journal

theorem sparing_of_launch {target : Target} (begun : Interleaved (launch target) b) :
    b.Sparing := by
  induction begun with
  | refl =>
    refine ⟨?_, ?_⟩
    · rw [(alike_launch target).session]
      exact fun ready => Bool.noConfusion ready
    · rw [history_launch]
      exact throughout_nil
  | tail _ last ih => exact last.sparing ih

/-- A session that was started cannot be started again. -/
theorem started_once (running : b.session.state = .running) (turns : Interleaved b c) :
    c.start = (c, .error (.startedTwice c.session.state)) := by
  have leads := turns.onward.leads
  rw [running] at leads
  rcases start_cases c with ⟨created, -⟩ | ⟨-, refused⟩
  · rw [created] at leads
    cases leads with
    | finish ended => contradiction
  · exact refused

theorem lawful_of_launch {target : Target} (begun : Interleaved (launch target) b) :
    Lawful target b where
  ended := ended_of_launch begun
  started := by
    intro created
    rcases start_cases b with ⟨-, accepted, running⟩ | ⟨other, -⟩
    · exact ⟨accepted, running, fun c => started_once running⟩
    · exact absurd created other
  unstarted := by
    intro other
    rcases start_cases b with ⟨created, -⟩ | ⟨-, refused⟩
    · exact absurd created other
    · exact refused
  sent := by
    intro running ready line
    rcases sendLine_cases b line with ⟨fault, refused, -⟩ | ⟨sends, unrefused, m, passes, last⟩
    · exact absurd ⟨running, ready⟩ ((claimPrompt_eq_error_iff _ line).mp ⟨fault, refused⟩)
    · have spent : m.session.promptReady = false := by
        rw [passes.promptReady_eq (by simp) (by simp) (by simp), sends.spent]
      refine ⟨unrefused, ?_⟩
      rcases last with same | same <;> rw [same] <;> exact spent
  unsent := by
    intro unfit line
    rcases sendLine_cases b line with refused | ⟨sends, -⟩
    · exact refused
    · exact absurd ⟨sends.running, sends.ready⟩ unfit
  handed := by
    intro before moment text accepted after split
    obtain ⟨m, n, reached, here, made, onward⟩ :=
      Interleaved.exists_origin begun (history_launch target) split rfl
    exact ⟨m, n, reached, here, made, onward⟩
  spared := by
    intro before first between second after split handed again
    obtain ⟨front, moment, back, rfl⟩ :=
      prompted_between (sparing_of_launch begun).afforded split handed again
    -- The prompt in between has its origin in a call at that place of the journal.
    have cut : b.history =
        (before ++ first :: front) ++ ⟨moment, .prompted⟩ :: (back ++ second :: after) := by
      rw [split]; simp
    obtain ⟨m, n, reached, here, rfl, onward⟩ :=
      Interleaved.exists_origin begun (history_launch target) cut rfl
    exact ⟨front, List.prefix_append _ _, m, reached, here, onward⟩

/-- In whatever order calls and events come, a session goes one way: from its creation it runs once
and ends once, with its transcript sealed; closed output, a delivered kill and the first exit stay.
Its target is handed a text only by a line that is sent while the session runs and has its prompt,
one line for a prompt.  Calls made one after the other, with whatever happens between them, are a
case of it. -/
theorem session_goes_one_way {target : Target} (begun : Interleaved (launch target) b) :
    Lawful target b ∧ (∀ c, Interleaved b c → Onward b c) ∧
      ∀ calls : List (Bool × Call), (∀ call ∈ calls, call.2.ofSession = true) →
        Interleaved b (b.calls calls) :=
  ⟨lawful_of_launch begun, fun _ turns => turns.onward, fun _ session => interleaved_calls b session⟩

/-- A session that has ended stays as it is, also when a prompt is noted afterwards. -/
theorem session_goes_one_way_late :
    let b := (launch {}).calls [(false, .start), (false, .finish), (false, .markPromptReady)]
    Lawful {} b ∧ b.session.state = .completed ∧ b.session.promptReady = true ∧
      ∀ c, Interleaved b c → c.session.state = .completed := by
  intro b
  obtain ⟨-, -, turns⟩ := session_goes_one_way (.refl : Interleaved (launch {}) (launch {}))
  have reached : Interleaved (launch {}) b := turns _ (by decide)
  obtain ⟨lawful, onward, -⟩ := session_goes_one_way reached
  have completed : b.session.state = .completed := by decide +kernel
  refine ⟨lawful, completed, by decide +kernel, fun c later => ?_⟩
  have leads := (onward c later).leads
  rw [completed] at leads
  generalize c.session.state = state at leads ⊢
  cases leads with
  | stay => rfl

end OneWay

end Bench

end ConsoleHarness
