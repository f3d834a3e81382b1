import Mathlib.Logic.Relation
import ConsoleHarness.Bench.Call

/-! # What can happen on a bench

Everything that an operation does to a bench is made of a few kinds of steps.  `Bench.Step` lists
them, each with what is known when it is taken; a `Deed` names its kind.  `Bench.Evolves deeds b c`
says that `c` comes from `b` by steps of the named kinds only.  It is a footprint at the same time:
what no step of these kinds touches is the same in `c` as in `b`.

Each operation is shown once to evolve its bench (`World`, `Program`).  An invariant is then a case
analysis over `Step`, and a frame rule holds for every operation whose deeds leave a part alone.
-/

namespace ConsoleHarness

/-- The kinds of steps on a bench. -/
inductive Deed where
  /-- The target, the clock or the outside world does something, or nothing happens. -/
  | world
  | start
  /-- Pending output is taken or put back piece by piece. -/
  | handle
  | consume
  | prompt
  | write
  | kill
  | seal
  /-- A line is logged or printed. -/
  | tell
  deriving DecidableEq, Repr

/-- All kinds of steps. -/
def Deed.all : List Deed :=
  [.world, .start, .handle, .consume, .prompt, .write, .kill, .seal, .tell]

/-- All kinds of steps but those that handle output piece by piece. -/
def Deed.orderly : List Deed := [.world, .start, .consume, .prompt, .write, .kill, .seal, .tell]

/-- The kind of step that leaves an event in the journal. -/
def Event.deed : Event → Deed
  | .arrived _ | .closed | .exited _ | .aborted | .paused _ => .world
  | .recorded _ => .consume
  | .prompted => .prompt
  | .wrote .. | .written _ => .write
  | .killed .. => .kill
  | .sealed => .seal
  | .logged .. | .printed _ => .tell

/-- The transcript after one more unit. -/
def Transcript.extend (t : Transcript) (unit : String) : Transcript :=
  { t with text := t.text ++ unit, length := t.length + Text.units unit }

namespace Bench

/-- Whether an event has happened. -/
def Saw (b : Bench) (event : Event) : Prop := ∃ entry ∈ b.history, entry.event = event

@[simp] theorem history_note (b : Bench) (event : Event) :
    (b.note event).history = b.history ++ [⟨b.clock, event⟩] := by
  simp [history, note]

@[simp] theorem history_withSession (b : Bench) (session : Session) :
    (b.withSession session).history = b.history := rfl

/-- `c` differs from `b` in nothing that the session, the journal or the target's memory can tell.
An exit that is on the wire stays there, and time does not go back. -/
structure Alike (b c : Bench) : Prop where
  session : c.session = b.session
  journal : c.journal = b.journal
  aborted : c.aborted = b.aborted
  target : c.target = b.target
  attempts : c.attempts = b.attempts
  accepted : c.accepted = b.accepted
  signals : c.signals = b.signals
  exit : ∀ exit, b.wire.exit = some exit → c.wire.exit = some exit
  later : b.clock ≤ c.clock

/-- A step on a bench, with its kind. -/
inductive Step : Deed → Bench → Bench → Prop
  | alike {b c} (same : Alike b c) : Step .world b c
  | arrive {b chunk} (filled : chunk.isEmpty = false) :
      Step .world b
        ((b.withSession { b.session with pending := b.session.pending ++ [chunk] }).note
          (.arrived chunk))
  | close {b} (opened : b.session.outputClosed = false) :
      Step .world b ((b.withSession { b.session with outputClosed := true }).note .closed)
  | exit {b exit} (onWire : b.wire.exit = some exit) (unknown : b.session.exit = none) :
      Step .world b ((b.withSession { b.session with exit := some exit }).note (.exited exit))
  | abort {b} (running : b.aborted = false) :
      Step .world b ({ b with aborted := true }.note .aborted)
  | pause {b} : Step .world b b.notePause
  | start {b} (created : b.session.state = .created) :
      Step .start b (b.withSession { b.session with state := .running })
  | handle {b pending} : Step .handle b (b.withSession { b.session with pending })
  /-- A unit is consumed; what is behind it in its chunk goes back to the front. -/
  | consume {b unit tail rest} (front : b.session.pending = (unit ++ tail) :: rest)
      (opened : b.session.transcript.isSealed = false) :
      Step .consume b
        ((b.withSession
          { b.session with
            pending := if tail.isEmpty then rest else tail :: rest
            transcript := b.session.transcript.extend unit }).note (.recorded unit))
  /-- A chunk is taken that cannot be recorded any more. -/
  | lose {b chunk rest} (front : b.session.pending = chunk :: rest)
      (closed : b.session.transcript.isSealed = true) :
      Step .consume b (b.withSession { b.session with pending := rest })
  | prompt {b} :
      Step .prompt b ((b.withSession { b.session with promptReady := true }).note .prompted)
  | claim {b} (running : b.session.state = .running) (ready : b.session.promptReady = true) :
      Step .write b (b.withSession { b.session with promptReady := false })
  | refuse {b text} : Step .write b ({ b with attempts := b.attempts + 1 }.note (.wrote text false))
  | hand {b text} :
      Step .write b
        ({ b with attempts := b.attempts + 1, accepted := b.accepted ++ [text] }.note
          (.wrote text true))
  | complete {b text} : Step .write b (b.note (.written text))
  | signal {b name delivered} :
      Step .kill b ({ b with signals := b.signals + 1 }.note (.killed name delivered))
  /-- The session counts as killed once a signal was delivered. -/
  | mark {b name} (delivered : b.Saw (.killed name true)) :
      Step .kill b (b.withSession { b.session with killRequested := true })
  | finish {b} :
      Step .seal b
        ((b.withSession
          { b.session with
            state :=
              if b.session.state.isTerminal then b.session.state
              else if b.session.killRequested then .killed
              else .completed
            promptReady := false
            transcript := b.session.transcript.close }).note .sealed)
  | freeze {b} :
      Step .seal b
        ((b.withSession { b.session with transcript := b.session.transcript.close }).note .sealed)
  | log {b level message} : Step .tell b (b.note (.logged level message))
  | print {b line} : Step .tell b (b.note (.printed line))

/-- `c` comes from `b` by steps of the given kinds. -/
def Evolves (deeds : List Deed) : Bench → Bench → Prop :=
  Relation.ReflTransGen fun b c => ∃ deed ∈ deeds, Step deed b c

/-- `c` comes from `b` by nothing that the program does. -/
abbrev Passes : Bench → Bench → Prop := Evolves [.world]

namespace Evolves

variable {deeds more : List Deed} {b c d : Bench}

theorem refl : Evolves deeds b b := Relation.ReflTransGen.refl

theorem trans (first : Evolves deeds b c) (second : Evolves deeds c d) : Evolves deeds b d :=
  Relation.ReflTransGen.trans first second

theorem of_step {deed : Deed} (step : Step deed b c) (member : deed ∈ deeds) :
    Evolves deeds b c :=
  Relation.ReflTransGen.single ⟨deed, member, step⟩

theorem single {deed : Deed} (step : Step deed b c) : Evolves [deed] b c :=
  .of_step step (List.mem_singleton_self deed)

theorem mono (evolves : Evolves deeds b c) (sub : deeds ⊆ more) : Evolves more b c := by
  refine Relation.ReflTransGen.mono ?_ b c evolves
  rintro b c ⟨deed, member, step⟩
  exact ⟨deed, sub member, step⟩

theorem of_passes (passes : Passes b c) (member : .world ∈ deeds) : Evolves deeds b c :=
  passes.mono (by simpa using member)

/-- What the steps of the given kinds preserve holds at the end if it holds at the start. -/
theorem invariant (property : Bench → Prop) (evolves : Evolves deeds b c)
    (preserved : ∀ deed ∈ deeds, ∀ b c, Step deed b c → property b → property c)
    (initial : property b) : property c := by
  induction evolves with
  | refl => exact initial
  | tail _ last ih =>
    obtain ⟨deed, member, step⟩ := last
    exact preserved deed member _ _ step ih

/-- A part of the bench that no step of the given kinds changes is the same at the end. -/
theorem frame {α : Type} (part : Bench → α) (evolves : Evolves deeds b c)
    (same : ∀ deed ∈ deeds, ∀ b c, Step deed b c → part c = part b) : part c = part b :=
  evolves.invariant (part · = part b)
    (fun deed member b' c' step equal => (same deed member b' c' step).trans equal) rfl

end Evolves

/-! ## Frames -/

section Frames

variable {deed : Deed} {deeds : List Deed} {b c : Bench}

theorem Step.transcript_eq (step : Step deed b c) (unread : deed ≠ .consume)
    (unsealed : deed ≠ .seal) : c.session.transcript = b.session.transcript := by
  cases step with
  | alike same => rw [same.session]
  | consume | lose => contradiction
  | finish | freeze => contradiction
  | _ => rfl

theorem Step.isSealed_eq (step : Step deed b c) (unsealed : deed ≠ .seal) :
    c.session.transcript.isSealed = b.session.transcript.isSealed := by
  cases step with
  | alike same => rw [same.session]
  | finish | freeze => contradiction
  | _ => rfl

theorem Step.promptReady_eq (step : Step deed b c) (unprompted : deed ≠ .prompt)
    (unwritten : deed ≠ .write) (unsealed : deed ≠ .seal) :
    c.session.promptReady = b.session.promptReady := by
  cases step with
  | alike same => rw [same.session]
  | prompt => contradiction
  | claim | refuse | hand | complete => contradiction
  | finish | freeze => contradiction
  | _ => rfl

theorem Step.killRequested_eq (step : Step deed b c) (spared : deed ≠ .kill) :
    c.session.killRequested = b.session.killRequested := by
  cases step with
  | alike same => rw [same.session]
  | signal | mark => contradiction
  | _ => rfl

theorem Step.state_eq (step : Step deed b c) (unstarted : deed ≠ .start)
    (unsealed : deed ≠ .seal) : c.session.state = b.session.state := by
  cases step with
  | alike same => rw [same.session]
  | start => contradiction
  | finish | freeze => contradiction
  | _ => rfl

theorem Step.pending_eq (step : Step deed b c) (indoors : deed ≠ .world)
    (untouched : deed ≠ .handle) (unread : deed ≠ .consume) :
    c.session.pending = b.session.pending := by
  cases step with
  | alike | arrive | close | exit | abort | pause => contradiction
  | handle => contradiction
  | consume | lose => contradiction
  | _ => rfl

theorem Step.exit_eq (step : Step deed b c) (indoors : deed ≠ .world) :
    c.session.exit = b.session.exit := by
  cases step with
  | alike | arrive | close | exit | abort | pause => contradiction
  | _ => rfl

theorem Step.aborted_eq (step : Step deed b c) (indoors : deed ≠ .world) :
    c.aborted = b.aborted := by
  cases step with
  | alike | arrive | close | exit | abort | pause => contradiction
  | _ => rfl

/-- The exit that became known first stays. -/
theorem Step.exit_stays (step : Step deed b c) {exit : Exit} (known : b.session.exit = some exit) :
    c.session.exit = some exit := by
  cases step with
  | alike same => rw [same.session]; exact known
  | exit _ unknown => rw [unknown] at known; contradiction
  | _ => exact known

/-- Each step adds at most one event to the history, of its own kind. -/
theorem Step.history_eq (step : Step deed b c) :
    c.history = b.history ∨
      ∃ entry, c.history = b.history ++ [entry] ∧ entry.event.deed = deed := by
  cases step with
  | alike same => exact .inl (congrArg List.reverse same.journal)
  | start | handle | lose | claim | mark => exact .inl rfl
  | _ => exact .inr ⟨_, List.reverse_cons, rfl⟩

/-- A pause that a step notes shows the session at that step. -/
theorem Step.paused_eq (step : Step deed b c) {moment : Millis} {s : Session}
    (added : c.history = b.history ++ [⟨moment, .paused s⟩]) : s = b.session := by
  cases step with
  | alike same => simp [history, same.journal] at added
  | pause =>
    obtain ⟨_, same⟩ := by simpa [notePause] using added
    exact same.symm
  | _ => simp [history, withSession, note] at added

/-- An event of another kind is seen after a step only if it was before. -/
theorem Step.saw_iff (step : Step deed b c) {event : Event} (other : event.deed ≠ deed) :
    c.Saw event ↔ b.Saw event := by
  rcases step.history_eq with kept | ⟨entry, grown, kind⟩
  · rw [Saw, kept, Saw]
  · have differs : entry.event ≠ event := fun same => other (same ▸ kind)
    simp [Saw, grown, differs]

namespace Evolves

theorem transcript_eq (evolves : Evolves deeds b c) (unread : .consume ∉ deeds)
    (unsealed : .seal ∉ deeds) : c.session.transcript = b.session.transcript :=
  evolves.frame (·.session.transcript) fun _ member _ _ step =>
    step.transcript_eq (ne_of_mem_of_not_mem member unread) (ne_of_mem_of_not_mem member unsealed)

theorem isSealed_eq (evolves : Evolves deeds b c) (unsealed : .seal ∉ deeds) :
    c.session.transcript.isSealed = b.session.transcript.isSealed :=
  evolves.frame (·.session.transcript.isSealed) fun _ member _ _ step =>
    step.isSealed_eq (ne_of_mem_of_not_mem member unsealed)

theorem promptReady_eq (evolves : Evolves deeds b c) (unprompted : .prompt ∉ deeds)
    (unwritten : .write ∉ deeds) (unsealed : .seal ∉ deeds) :
    c.session.promptReady = b.session.promptReady :=
  evolves.frame (·.session.promptReady) fun _ member _ _ step =>
    step.promptReady_eq (ne_of_mem_of_not_mem member unprompted)
      (ne_of_mem_of_not_mem member unwritten) (ne_of_mem_of_not_mem member unsealed)

theorem killRequested_eq (evolves : Evolves deeds b c) (spared : .kill ∉ deeds) :
    c.session.killRequested = b.session.killRequested :=
  evolves.frame (·.session.killRequested) fun _ member _ _ step =>
    step.killRequested_eq (ne_of_mem_of_not_mem member spared)

theorem state_eq (evolves : Evolves deeds b c) (unstarted : .start ∉ deeds)
    (unsealed : .seal ∉ deeds) : c.session.state = b.session.state :=
  evolves.frame (·.session.state) fun _ member _ _ step =>
    step.state_eq (ne_of_mem_of_not_mem member unstarted) (ne_of_mem_of_not_mem member unsealed)

theorem exit_eq (evolves : Evolves deeds b c) (indoors : .world ∉ deeds) :
    c.session.exit = b.session.exit :=
  evolves.frame (·.session.exit) fun _ member _ _ step =>
    step.exit_eq (ne_of_mem_of_not_mem member indoors)

theorem aborted_eq (evolves : Evolves deeds b c) (indoors : .world ∉ deeds) :
    c.aborted = b.aborted :=
  evolves.frame (·.aborted) fun _ member _ _ step =>
    step.aborted_eq (ne_of_mem_of_not_mem member indoors)

theorem exit_stays (evolves : Evolves deeds b c) {exit : Exit}
    (known : b.session.exit = some exit) : c.session.exit = some exit :=
  evolves.invariant (·.session.exit = some exit) (fun _ _ _ _ step => step.exit_stays) known

/-- What was seen once stays in the journal. -/
theorem saw (evolves : Evolves deeds b c) {event : Event} (seen : b.Saw event) : c.Saw event := by
  refine evolves.invariant (Saw · event) ?_ seen
  rintro deed - b c step ⟨entry, member, same⟩
  rcases step.history_eq with kept | ⟨other, grown, -⟩
  · exact ⟨entry, kept ▸ member, same⟩
  · exact ⟨entry, by rw [grown]; exact List.mem_append_left _ member, same⟩

/-- No event of another kind was seen meanwhile. -/
theorem saw_of_saw (evolves : Evolves deeds b c) {event : Event} (other : event.deed ∉ deeds)
    (seen : c.Saw event) : b.Saw event := by
  refine evolves.invariant (fun c => c.Saw event → b.Saw event) ?_ id seen
  intro deed member d e step ih after
  exact ih ((step.saw_iff (ne_of_mem_of_not_mem member other).symm).mp after)

/-- The history only grows, by events of the given kinds. -/
theorem news (evolves : Evolves deeds b c) :
    ∃ news, c.history = b.history ++ news ∧ ∀ entry ∈ news, entry.event.deed ∈ deeds := by
  induction evolves with
  | refl => exact ⟨[], by simp, by simp⟩
  | tail _ last ih =>
    -- The last step adds its event, if it has one, behind the news so far.
    obtain ⟨deed, member, step⟩ := last
    obtain ⟨news, grown, kinds⟩ := ih
    rcases step.history_eq with same | ⟨entry, added, kind⟩
    · exact ⟨news, same.trans grown, kinds⟩
    · refine ⟨news ++ [entry], ?_, ?_⟩
      · rw [added, grown, List.append_assoc]
      · intro other member'
        rcases List.mem_append.mp member' with old | new
        · exact kinds other old
        · rw [List.mem_singleton.mp new, kind]; exact member

/-- A view of the journal that sees no event of the given kinds sees nothing new. -/
theorem view_eq {α : Type} (view : Event → Option α) (evolves : Evolves deeds b c)
    (blind : ∀ event, event.deed ∈ deeds → view event = none) :
    c.history.filterMap (view ·.event) = b.history.filterMap (view ·.event) := by
  obtain ⟨news, grown, kinds⟩ := evolves.news
  have unseen : news.filterMap (view ·.event) = [] :=
    List.filterMap_eq_nil_iff.mpr fun entry member => blind entry.event (kinds entry member)
  rw [grown, List.filterMap_append, unseen, List.append_nil]

end Evolves

end Frames

end Bench

end ConsoleHarness
