import ConsoleHarness.Proofs.Bench.Program

/-! # Turns

The calls of a session need not come in the order in which a run makes them.  One may be made while
another is still waiting, and the target does what it likes at any moment.  `Bench.Turn` is one
thing that happens then, and `Bench.Interleaved` any number of them.  A wait falls apart into what
happens during it, and other calls can come in between; so does a send, into the line that is handed
over (`Bench.sendOff`) and the end of its write.

Texts and prompts have their own turns: `Bench.Turn.origin` finds the line that was sent behind a
text in the journal, and the call behind a prompt.
-/

namespace ConsoleHarness

/-- The calls of the session that neither send a line nor note a prompt, and the calls that only look
or let things happen. -/
def Call.isSilent : Call → Bool
  | .start | .takeChunk | .pushBack _ | .record _ | .waitForOutput _ | .kill _ | .finish
  | .sealTranscript => true
  | .transcript | .pid | .advance _ | .happen _ => true
  | _ => false

/-- The calls of the session itself, and those that only look or let things happen. -/
def Call.ofSession : Call → Bool
  | .markPromptReady | .send _ => true
  | call => call.isSilent

/-- Whether an event is a text that was handed over, or a prompt. -/
def Event.isCue : Event → Bool
  | .wrote .. | .prompted => true
  | _ => false

theorem isCue_of_deed {deeds : List Deed} {event : Event} (kind : event.deed ∈ deeds)
    (unwritten : .write ∉ deeds) (unprompted : .prompt ∉ deeds) : event.isCue = false := by
  cases event with
  | wrote => exact absurd kind unwritten
  | prompted => exact absurd kind unprompted
  | _ => rfl

/-- Where only the first event can be a text or a prompt, one that is comes first. -/
theorem cue_first {first entry : Entry} {rest front back : List Entry}
    (idle : ∀ other ∈ rest, other.event.isCue = false)
    (split : first :: rest = front ++ entry :: back) (cue : entry.event.isCue = true) :
    front = [] ∧ entry = first := by
  cases front with
  | nil => exact ⟨rfl, (List.cons.inj split).1.symm⟩
  | cons other front =>
    have member : entry ∈ rest := by rw [(List.cons.inj split).2]; simp
    rw [idle entry member] at cue
    contradiction

namespace Bench

/-! ## A send in parts -/

/-- Hands a text to the target, which takes it or refuses it. -/
def hand (b : Bench) (text : String) : Bench × Option WriteFailure :=
  let tried := { b with attempts := b.attempts + 1 }
  match b.target.refuses b.accepted b.attempts b.wire.exit.isSome with
  | some failure => (tried.note (.wrote text false), some failure)
  | none => (tried.accept text, none)

/-- A write hands its text over and, if the target took it, waits for the end. -/
theorem write_eq (b : Bench) (text : String) :
    b.write text =
      match b.hand text with
      | (c, some failure) => (c, .error failure)
      | (c, none) => c.complete text (b.target.course (b.accepted ++ [text])) := by
  unfold write hand
  cases b.target.refuses b.accepted b.attempts b.wire.exit.isSome <;> rfl

/-- Sends a line up to the point at which the target has it. -/
def sendOff (b : Bench) (line : String) : Bench :=
  match b.session.claimPrompt line with
  | .error _ => b
  | .ok session => ((b.withSession session).hand (line ++ "\n")).1

/-- A line is sent: the session runs and has its prompt, which is used up before the line is handed
over. -/
structure Sends (m : Bench) (text : String) (n : Bench) : Prop where
  running : m.session.state = .running
  ready : m.session.promptReady = true
  line : ∃ line, text = line ++ "\n" ∧ n = m.sendOff line
  claimed : n = ((m.withSession { m.session with promptReady := false }).hand text).1
  spent : n.session.promptReady = false

/-- Handing a text over is one step, and what the target does at once. -/
theorem hand_spec (b : Bench) (text : String) :
    ∃ n accepted, Step .write b n ∧ n.session = b.session ∧
      n.history = b.history ++ [⟨b.clock, .wrote text accepted⟩] ∧ Passes n (b.hand text).1 := by
  unfold hand
  dsimp only
  split
  · exact ⟨_, false, .refuse, rfl, by simp [history, note], .refl⟩
  · exact ⟨_, true, .hand, rfl, by simp [history, note], passes_begin _ _⟩

theorem Sends.spec {m n : Bench} {text : String} (sends : m.Sends text n) :
    ∃ k accepted, Evolves [.write] m k ∧
      k.history = m.history ++ [⟨m.clock, .wrote text accepted⟩] ∧ Passes k n := by
  obtain ⟨k, accepted, step, -, noted, passes⟩ :=
    hand_spec (m.withSession { m.session with promptReady := false }) text
  rw [← sends.claimed] at passes
  have claimed : Evolves [.write] m (m.withSession { m.session with promptReady := false }) :=
    .single (.claim sends.running sends.ready)
  exact ⟨k, accepted, claimed.trans (.single step), noted, passes⟩

/-- A line is refused, or sent. -/
theorem sendOff_cases (b : Bench) (line : String) :
    b.sendOff line = b ∨ b.Sends (line ++ "\n") (b.sendOff line) := by
  cases claimed : b.session.claimPrompt line with
  | error fault => exact .inl (by rw [sendOff, claimed])
  | ok session =>
    obtain ⟨running, ready, rfl⟩ := claimPrompt_eq_ok claimed
    have handed : b.sendOff line =
        ((b.withSession { b.session with promptReady := false }).hand (line ++ "\n")).1 := by
      rw [sendOff, claimed]
    refine .inr ⟨running, ready, ⟨line, rfl, rfl⟩, handed, ?_⟩
    obtain ⟨n, accepted, -, same, -, passes⟩ :=
      hand_spec (b.withSession { b.session with promptReady := false }) (line ++ "\n")
    rw [handed, passes.promptReady_eq (by simp) (by simp) (by simp), same]
    rfl

/-- Between the line that is handed over and the end of the write, time passes. -/
theorem sendLine_cases (b : Bench) (line : String) :
    (∃ fault, b.session.claimPrompt line = .error fault ∧
        b.sendLine line = (b, .error (.fault fault))) ∨
      (b.Sends (line ++ "\n") (b.sendOff line) ∧
        (∀ fault, (b.sendLine line).2 ≠ .error (.fault fault)) ∧
        ∃ m, Passes (b.sendOff line) m ∧
          ((b.sendLine line).1 = m ∨ (b.sendLine line).1 = m.note (.written (line ++ "\n")))) := by
  cases claimed : b.session.claimPrompt line with
  | error fault => exact .inl ⟨fault, rfl, by rw [sendLine, claimed]⟩
  | ok session =>
    have sends : b.Sends (line ++ "\n") (b.sendOff line) := by
      rcases sendOff_cases b line with same | sends
      · -- A line that was claimed leaves its text in the journal.
        obtain ⟨n, accepted, -, -, noted, passes⟩ :=
          hand_spec (b.withSession session) (line ++ "\n")
        obtain ⟨news, grown, -⟩ := passes.news
        rw [sendOff, claimed] at same
        simp [same, noted] at grown
      · exact sends
    refine .inr ⟨sends, ?_⟩
    have handed : b.sendOff line = ((b.withSession session).hand (line ++ "\n")).1 := by
      rw [sendOff, claimed]
    rw [handed, sendLine, claimed]
    dsimp only
    rw [write_eq]
    cases (b.withSession session).hand (line ++ "\n") with
    | mk c refusal =>
      cases refusal with
      | some failure => exact ⟨by simp, c, .refl, .inl rfl⟩
      | none =>
        unfold complete
        dsimp only
        split
        · rename_i done
          split at done
          · obtain ⟨rfl, -⟩ := Prod.mk.inj done
            exact ⟨by simp, _, passes_flush _ _, .inr rfl⟩
          · simp at done
        · rename_i done
          split at done
          · simp at done
          · obtain ⟨rfl, -⟩ := Prod.mk.inj done
            exact ⟨by simp, _, passes_flush _ _, .inl rfl⟩

/-! ## Turns -/

/-- One thing that happens to a session and its target. -/
inductive Turn : Bench → Bench → Prop
  /-- A call that sends nothing, or a wait as a whole. -/
  | call {b heeds call} (silent : call.isSilent = true) : Turn b (b.perform heeds call).1
  | prompt {b} : Turn b b.markPromptReady
  | send {b line} : Turn b (b.sendOff line)
  /-- A write is over that the target had taken. -/
  | written {b text} : Turn b (b.note (.written text))
  /-- The session is told of an exit, be it the first or not. -/
  | exited {b exit} : Turn b (b.recordExit exit)
  /-- Output arrives or is over, the run is cancelled, time passes, a wait begins or ends. -/
  | world {b c} (step : Step .world b c) : Turn b c

/-- `c` comes from `b` by any calls and events in any order. -/
abbrev Interleaved : Bench → Bench → Prop := Relation.ReflTransGen Turn

theorem Interleaved.of_passes {b c : Bench} (passes : Passes b c) : Interleaved b c := by
  refine Relation.ReflTransGen.mono ?_ b c passes
  rintro b c ⟨deed, member, step⟩
  obtain rfl := List.mem_singleton.mp member
  exact .world step

theorem interleaved_sendLine (b : Bench) (line : String) :
    Interleaved b (b.sendLine line).1 := by
  rcases sendLine_cases b line with ⟨fault, -, refused⟩ | ⟨-, -, m, passes, last⟩
  · rw [refused]
  · have sent : Interleaved b m := .head .send (Interleaved.of_passes passes)
    rcases last with same | same
    · rw [same]; exact sent
    · rw [same]; exact sent.tail .written

theorem interleaved_call (b : Bench) (heeds : Bool) {call : Call}
    (session : call.ofSession = true) : Interleaved b (b.call heeds call).1 := by
  refine Relation.ReflTransGen.trans ?_ (Interleaved.of_passes (passes_rest _))
  unfold Call.ofSession at session
  split at session
  · exact .single .prompt
  · rename_i line
    have sent := interleaved_sendLine b line
    dsimp only
    split <;> rename_i same <;> rw [same] at sent <;> exact sent
  · exact .single (.call session)

/-- Calls that are made one after the other are a case of it. -/
theorem interleaved_calls (b : Bench) {calls : List (Bool × Call)}
    (session : ∀ call ∈ calls, call.2.ofSession = true) : Interleaved b (b.calls calls) := by
  induction calls generalizing b with
  | nil => exact .refl
  | cons first rest ih =>
    obtain ⟨heeds, call⟩ := first
    have here := interleaved_call b heeds (session (heeds, call) List.mem_cons_self)
    exact here.trans (ih _ fun other member => session other (List.mem_cons_of_mem _ member))

section Turns

variable {b c d : Bench}

/-! ### What a turn can do -/

/-- Everything that a silent call does. -/
abbrev silentDeeds : List Deed := [.world, .start, .handle, .consume, .kill, .seal]

theorem evolves_perform_silent (b : Bench) (heeds : Bool) {call : Call}
    (silent : call.isSilent = true) : Evolves silentDeeds b (b.perform heeds call).1 := by
  cases call with
  | start => exact evolves_answering _ ((evolves_start b).mono (by simp))
  | takeChunk =>
    simp only [perform]
    split
    · rename_i taken
      obtain ⟨rest, _, rfl⟩ := takeChunk_eq_some taken
      exact .of_step .handle (by simp)
    · exact .refl
  | pushBack text =>
    simp only [perform, Session.pushBack]
    split
    · exact .refl
    · exact .of_step .handle (by simp)
  | record unit => exact evolves_answering _ ((evolves_record b unit).mono (by simp))
  | transcript | pid => exact .refl
  | sealTranscript => exact .of_step .freeze (by simp)
  | waitForOutput limit => exact .of_passes (passes_waitForOutput b limit heeds) (by simp)
  | kill signal => exact (evolves_kill b signal).mono (by simp)
  | finish => exact .of_step .finish (by simp)
  | advance span => exact .of_passes (passes_advance b span) (by simp)
  | happen timed => exact .of_passes (passes_begin b [timed]) (by simp)
  | _ => contradiction

/-- The session takes the first exit that it is told of, and no other. -/
theorem recordExit_cases (b : Bench) (exit : Exit) :
    b.recordExit exit = b ∨ (b.session.exit = none ∧
      b.recordExit exit =
        (b.withSession { b.session with exit := some exit }).note (.exited exit)) := by
  unfold recordExit
  split
  · exact .inl rfl
  · rename_i unknown
    have none : b.session.exit = none := by simpa using unknown
    simp only [Session.recordExit, none]
    exact .inr ⟨trivial, trivial⟩

/-- What a turn comes to. -/
inductive Turn.ComesTo (b : Bench) : Bench → Prop
  | silent {c : Bench} (evolves : Evolves silentDeeds b c) : Turn.ComesTo b c
  | prompt : Turn.ComesTo b b.markPromptReady
  | sends {c : Bench} {text : String} (sends : b.Sends text c) : Turn.ComesTo b c
  | written {text} : Turn.ComesTo b (b.note (.written text))
  | exit {exit} (unknown : b.session.exit = none) :
      Turn.ComesTo b ((b.withSession { b.session with exit := some exit }).note (.exited exit))

theorem Turn.comesTo (turn : Turn b c) : Turn.ComesTo b c := by
  cases turn with
  | call silent => exact .silent (evolves_perform_silent b _ silent)
  | prompt => exact .prompt
  | @send line =>
    rcases sendOff_cases b line with same | sends
    · rw [same]; exact .silent .refl
    · exact .sends sends
  | written => exact .written
  | @exited exit =>
    rcases recordExit_cases b exit with same | ⟨unknown, same⟩
    · rw [same]; exact .silent .refl
    · rw [same]; exact .exit unknown
  | world step => exact .silent (.of_step step (by simp))

/-! ### Where texts and prompts come from -/

/-- What a turn was that left a text or a prompt in the journal. -/
def Origin (m : Bench) (event : Event) (n : Bench) : Prop :=
  match event with
  | .wrote text _ => m.Sends text n
  | .prompted => n = m.markPromptReady
  | _ => True

/-- A text or a prompt is the first thing that its turn leaves in the journal. -/
theorem Turn.origin (turn : Turn b c) : ∃ news, c.history = b.history ++ news ∧
    ∀ front entry back, news = front ++ entry :: back → entry.event.isCue = true →
      front = [] ∧ b.Origin entry.event c := by
  cases turn.comesTo with
  | silent evolves =>
    obtain ⟨news, grown, kinds⟩ := evolves.news
    refine ⟨news, grown, fun front entry back split cue => absurd cue ?_⟩
    rw [isCue_of_deed (kinds entry (by rw [split]; simp)) (by simp) (by simp)]
    simp
  | prompt =>
    refine ⟨[⟨b.clock, .prompted⟩], by simp [markPromptReady, history_note],
      fun front entry back split cue => ?_⟩
    obtain ⟨rfl, rfl⟩ := cue_first (by simp) split cue
    exact ⟨rfl, rfl⟩
  | @sends _ text sends =>
    obtain ⟨k, accepted, -, noted, passes⟩ := sends.spec
    obtain ⟨news, grown, kinds⟩ := passes.news
    refine ⟨⟨b.clock, .wrote text accepted⟩ :: news, by rw [grown, noted]; simp,
      fun front entry back split cue => ?_⟩
    obtain ⟨rfl, rfl⟩ :=
      cue_first (fun other member => isCue_of_deed (kinds other member) (by simp) (by simp)) split cue
    exact ⟨rfl, sends⟩
  | @written text =>
    refine ⟨[⟨b.clock, .written text⟩], history_note .., fun front entry back split cue => ?_⟩
    obtain ⟨rfl, rfl⟩ := cue_first (by simp) split cue
    contradiction
  | @exit exit unknown =>
    refine ⟨[⟨b.clock, .exited exit⟩], history_note .., fun front entry back split cue => ?_⟩
    obtain ⟨rfl, rfl⟩ := cue_first (by simp) split cue
    contradiction

/-- Behind a text or a prompt in the journal is the turn that left it there. -/
theorem Interleaved.exists_origin (turns : Interleaved b d) (fresh : b.history = [])
    {before after : List Entry} {entry : Entry} (split : d.history = before ++ entry :: after)
    (cue : entry.event.isCue = true) :
    ∃ m n, Interleaved b m ∧ m.history = before ∧ m.Origin entry.event n ∧ Interleaved n d := by
  induction turns generalizing after with
  | refl => simp [fresh] at split
  | @tail c d first last ih =>
    obtain ⟨news, grown, origin⟩ := last.origin
    rw [grown] at split
    -- Either the last turn left it, or it was there before.
    rcases cut_append split with ⟨front, earlier⟩ | ⟨front, rfl, now⟩
    · obtain ⟨m, n, reached, here, made, onward⟩ := ih earlier
      exact ⟨m, n, reached, here, made, onward.tail last⟩
    · obtain ⟨rfl, made⟩ := origin front entry after now cue
      exact ⟨c, d, first, by simp, made, .refl⟩

end Turns

end Bench

end ConsoleHarness
