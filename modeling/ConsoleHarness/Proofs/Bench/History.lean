import Mathlib.Data.List.Induction
import ConsoleHarness.Proofs.Bench.Deeds

/-! # Histories

A history is the journal read forwards.  `Throughout` says of every event that it stands in a
certain relation to what came before it; such properties grow with the history, one event at a time.
`Bench.Shows` lists the moments at which the program could look at its session: whenever it was
paused, and now.
-/

namespace ConsoleHarness

/-! ## What a history adds up to -/

/-- The output that arrived, as one text. -/
def arrivedIn (history : List Entry) : String :=
  String.join (history.filterMap (·.event.chunk?))

/-- The output that was consumed, as one text. -/
def consumedIn (history : List Entry) : String :=
  String.join (history.filterMap (·.event.unit?))

@[simp] theorem consumedIn_append (a b : List Entry) :
    consumedIn (a ++ b) = consumedIn a ++ consumedIn b := by
  simp [consumedIn]

@[simp] theorem arrivedIn_append (a b : List Entry) :
    arrivedIn (a ++ b) = arrivedIn a ++ arrivedIn b := by
  simp [arrivedIn]

@[simp] theorem consumedIn_singleton (moment : Millis) (event : Event) :
    consumedIn [⟨moment, event⟩] = event.unit?.getD "" := by
  cases event <;> simp [consumedIn, Event.unit?]

@[simp] theorem arrivedIn_singleton (moment : Millis) (event : Event) :
    arrivedIn [⟨moment, event⟩] = event.chunk?.getD "" := by
  cases event <;> simp [arrivedIn, Event.chunk?]

/-- The texts handed to the target, taken or not. -/
def handedIn (history : List Entry) : List String := history.filterMap (·.event.handed?)

/-- The texts whose write was completed. -/
def writtenIn (history : List Entry) : List String := history.filterMap (·.event.written?)

@[simp] theorem handedIn_append (a b : List Entry) :
    handedIn (a ++ b) = handedIn a ++ handedIn b := List.filterMap_append

@[simp] theorem writtenIn_append (a b : List Entry) :
    writtenIn (a ++ b) = writtenIn a ++ writtenIn b := List.filterMap_append

/-- One more event, in the reading of `readsIn`. -/
def readsAfter (reads : List String × String) : Event → List String × String
  | .recorded unit => (reads.1, reads.2 ++ unit)
  | .prompted => (reads.1 ++ [reads.2], "")
  | _ => reads

/-- The consumed text, cut where a prompt was found: the pieces up to a prompt each, and the rest
after the last of them. -/
def readsIn (history : List Entry) : List String × String :=
  history.foldl (fun reads entry => readsAfter reads entry.event) ([], "")

@[simp] theorem readsIn_concat (history : List Entry) (entry : Entry) :
    readsIn (history ++ [entry]) = readsAfter (readsIn history) entry.event := by
  simp [readsIn]

/-- What is consumed without a prompt makes the rest longer. -/
theorem readsIn_append {history news : List Entry}
    (unprompted : ∀ entry ∈ news, entry.event ≠ .prompted) :
    readsIn (history ++ news) = ((readsIn history).1, (readsIn history).2 ++ consumedIn news) := by
  induction news using List.reverseRecOn with
  | nil => simp [consumedIn]
  | append_singleton front last ih =>
    -- A history grows at its end, and so does the reading of it.
    have earlier := ih fun entry member => unprompted entry (List.mem_append_left _ member)
    have here := unprompted last (by simp)
    rw [← List.append_assoc, readsIn_concat, earlier, consumedIn_append]
    cases kind : last.event with
    | recorded unit => simp [readsAfter, consumedIn, kind, Event.unit?, String.append_assoc]
    | prompted => exact absurd kind here
    | _ => simp [readsAfter, consumedIn, kind, Event.unit?]

/-- A piece that was cut stays. -/
theorem readsIn_isPrefix (history news : List Entry) :
    (readsIn history).1 <+: (readsIn (history ++ news)).1 := by
  induction news using List.reverseRecOn with
  | nil => simp
  | append_singleton front last ih =>
    rw [← List.append_assoc, readsIn_concat]
    cases last.event with
    | prompted => exact ih.trans (List.prefix_append _ _)
    | _ => exact ih

/-- The pieces and the rest are all that was consumed. -/
theorem consumedIn_eq_join (history : List Entry) :
    consumedIn history = String.join (readsIn history).1 ++ (readsIn history).2 := by
  induction history using List.reverseRecOn with
  | nil => rfl
  | append_singleton front last ih =>
    rw [consumedIn_append, ih, readsIn_concat]
    cases kind : last.event with
    | recorded unit => simp [readsAfter, consumedIn, kind, Event.unit?, String.append_assoc]
    | prompted => simp [readsAfter, consumedIn, kind, Event.unit?]
    | _ => simp [readsAfter, consumedIn, kind, Event.unit?]

/-! ## Events and what came before them -/

/-- A place in a history that grew is among the news or was there before. -/
theorem cut_append {history news before after : List Entry} {entry : Entry}
    (split : history ++ news = before ++ entry :: after) :
    (∃ front, history = before ++ entry :: front) ∨
      ∃ front, before = history ++ front ∧ news = front ++ entry :: after := by
  rcases List.append_eq_append_iff.mp split with ⟨front, rfl, cut⟩ | ⟨front, rfl, cut⟩
  · exact .inr ⟨front, rfl, cut⟩
  · cases front with
    | nil => exact .inr ⟨[], by simp, by simpa using cut.symm⟩
    | cons first front =>
      obtain ⟨rfl, rfl⟩ := List.cons.inj cut
      exact .inl ⟨front, rfl⟩

/-- A place in a history that grew by one event is at its end or was there before. -/
theorem cut_concat {history before after : List Entry} {last entry : Entry}
    (split : history ++ [last] = before ++ entry :: after) :
    (history = before ∧ last = entry) ∨ ∃ front, history = before ++ entry :: front := by
  rcases cut_append split with old | ⟨front, rfl, now⟩
  · exact .inr old
  · cases front with
    | nil => exact .inl ⟨by simp, (List.cons.inj now).1⟩
    | cons other front => simp at now

/-- Every event stands in the given relation to the history before it. -/
def Throughout (property : List Entry → Event → Prop) (history : List Entry) : Prop :=
  ∀ before entry after, history = before ++ entry :: after → property before entry.event

section Throughout

variable {property : List Entry → Event → Prop} {history news : List Entry}

theorem throughout_nil : Throughout property [] := by
  intro before entry after split
  simp at split

/-- A history that grows by one event. -/
theorem Throughout.concat (old : Throughout property history) {entry : Entry}
    (new : property history entry.event) : Throughout property (history ++ [entry]) := by
  intro before other after split
  rcases cut_concat split with ⟨rfl, rfl⟩ | ⟨front, cut⟩
  · exact new
  · exact old before other front cut

theorem Throughout.append (old : Throughout property history)
    (new : ∀ before entry after, news = before ++ entry :: after →
      property (history ++ before) entry.event) : Throughout property (history ++ news) := by
  induction news using List.reverseRecOn with
  | nil => rwa [List.append_nil]
  | append_singleton front last ih =>
    rw [← List.append_assoc]
    refine Throughout.concat (ih fun before entry after split => ?_) (new front last [] rfl)
    exact new before entry (after ++ [last]) (by rw [split]; simp)

theorem Throughout.of_isPrefix (whole : Throughout property history) {start : List Entry}
    (initial : start <+: history) : Throughout property start := by
  obtain ⟨news, rfl⟩ := initial
  intro before entry after split
  exact whole before entry (after ++ news) (by rw [split]; simp)

end Throughout

namespace Bench

/-- The program could look at the session when it was `session`, after the history `before`:
it was paused then, or that is now. -/
def Shows (b : Bench) (before : List Entry) (session : Session) : Prop :=
  (∃ moment after, b.history = before ++ ⟨moment, .paused session⟩ :: after) ∨
    (b.history = before ∧ b.session = session)

theorem Shows.isPrefix {b : Bench} {before : List Entry} {s : Session} (shown : b.Shows before s) :
    before <+: b.history := by
  rcases shown with ⟨moment, after, split⟩ | ⟨all, _⟩
  · exact ⟨_, split.symm⟩
  · exact all ▸ List.prefix_rfl

/-- A step adds at most the present to the moments at which the program could look. -/
theorem Step.shows {deed : Deed} {b c : Bench} (step : Step deed b c) {before : List Entry}
    {s : Session} (shown : c.Shows before s) :
    b.Shows before s ∨ (c.history = before ∧ c.session = s) := by
  rcases shown with ⟨moment, after, split⟩ | now
  · rcases step.history_eq with kept | ⟨entry, grown, _⟩
    · exact .inl (.inl ⟨moment, after, kept ▸ split⟩)
    · rw [grown] at split
      rcases cut_concat split with ⟨same, rfl⟩ | ⟨front, cut⟩
      · -- The pause is the last event, so the step itself has noted it.
        exact .inl (.inr ⟨same, (step.paused_eq grown).symm⟩)
      · exact .inl (.inl ⟨moment, front, cut⟩)
  · exact .inr now

/-- What each step keeps true of history and session is true whenever the program could look. -/
theorem Evolves.shows {deeds : List Deed} {b c : Bench} {property : List Entry → Session → Prop}
    (evolves : Evolves deeds b c)
    (preserved : ∀ deed ∈ deeds, ∀ b c, Step deed b c →
      property b.history b.session → property c.history c.session)
    (initial : ∀ before s, b.Shows before s → property before s) :
    ∀ before s, c.Shows before s → property before s := by
  refine evolves.invariant (fun b => ∀ before s, b.Shows before s → property before s) ?_ initial
  intro deed member b c step all before s shown
  rcases step.shows shown with old | ⟨rfl, rfl⟩
  · exact all before s old
  · exact preserved deed member b c step (all _ _ (.inr ⟨rfl, rfl⟩))

/-- What is true of all events of some kinds stays true throughout. -/
theorem Evolves.throughout {deeds : List Deed} {b c : Bench}
    {property : List Entry → Event → Prop} (evolves : Evolves deeds b c)
    (always : ∀ before event, event.deed ∈ deeds → property before event)
    (old : Throughout property b.history) : Throughout property c.history := by
  obtain ⟨news, grown, kinds⟩ := evolves.news
  rw [grown]
  refine old.append fun before entry after split => always _ _ (kinds entry ?_)
  rw [split]
  simp

/-- Steps that consume nothing leave the consumed text as it is. -/
theorem Evolves.consumedIn_eq {deeds : List Deed} {b c : Bench} (evolves : Evolves deeds b c)
    (unread : .consume ∉ deeds) : consumedIn c.history = consumedIn b.history := by
  have same := evolves.view_eq Event.unit? (by
    intro event kind
    cases event with
    | recorded _ => exact absurd kind unread
    | _ => rfl)
  rw [consumedIn, same, consumedIn]

/-- Nothing arrives while nothing passes outside. -/
theorem Evolves.arrivedIn_eq {deeds : List Deed} {b c : Bench} (evolves : Evolves deeds b c)
    (indoors : .world ∉ deeds) : arrivedIn c.history = arrivedIn b.history := by
  have same := evolves.view_eq Event.chunk? (by
    intro event kind
    cases event with
    | arrived _ => exact absurd kind indoors
    | _ => rfl)
  rw [arrivedIn, same, arrivedIn]

/-- Steps that hand nothing over leave the handed texts as they are. -/
theorem Evolves.handedIn_eq {deeds : List Deed} {b c : Bench} (evolves : Evolves deeds b c)
    (unwritten : .write ∉ deeds) : handedIn c.history = handedIn b.history :=
  evolves.view_eq Event.handed? (by
    intro event kind
    cases event with
    | wrote _ _ => exact absurd kind unwritten
    | _ => rfl)

theorem Evolves.writtenIn_eq {deeds : List Deed} {b c : Bench} (evolves : Evolves deeds b c)
    (unwritten : .write ∉ deeds) : writtenIn c.history = writtenIn b.history :=
  evolves.view_eq Event.written? (by
    intro event kind
    cases event with
    | written _ => exact absurd kind unwritten
    | _ => rfl)

/-- Without a prompt, only the rest behind the last one changes. -/
theorem Evolves.readsIn_eq {deeds : List Deed} {b c : Bench} (evolves : Evolves deeds b c)
    (unprompted : .prompt ∉ deeds) {text : String}
    (consumed : consumedIn c.history = consumedIn b.history ++ text) :
    readsIn c.history = ((readsIn b.history).1, (readsIn b.history).2 ++ text) := by
  obtain ⟨news, grown, kinds⟩ := evolves.news
  rw [grown, consumedIn_append, String.append_right_inj] at consumed
  rw [grown, ← consumed]
  refine readsIn_append fun entry member prompt => unprompted ?_
  have kind := kinds entry member
  rwa [prompt] at kind

/-- An event that has happened meanwhile happened at a step. -/
theorem Evolves.exists_step {deeds : List Deed} {b d : Bench} (evolves : Evolves deeds b d)
    {before after : List Entry} {entry : Entry} (split : d.history = before ++ entry :: after)
    (new : entry ∉ b.history) :
    ∃ m n deed, Evolves deeds b m ∧ deed ∈ deeds ∧ Step deed m n ∧ Evolves deeds n d ∧
      m.history = before ∧ n.history = before ++ [entry] := by
  induction evolves generalizing after with
  | refl => exact absurd (by rw [split]; simp) new
  | @tail c d first last ih =>
    obtain ⟨deed, member, step⟩ := last
    have earlier : ∀ front, c.history = before ++ entry :: front →
        ∃ m n deed, Evolves deeds b m ∧ deed ∈ deeds ∧ Step deed m n ∧ Evolves deeds n d ∧
          m.history = before ∧ n.history = before ++ [entry] := by
      intro front cut
      obtain ⟨m, n, there, reached, taken, made, onward, here, then_⟩ := ih cut
      exact ⟨m, n, there, reached, taken, made, onward.trans (.of_step step member), here, then_⟩
    -- Either this last step left the event, or the event was there before it.
    rcases step.history_eq with same | ⟨other, grown, _⟩
    · exact earlier after (same ▸ split)
    · rw [grown] at split
      rcases cut_concat split with ⟨here, rfl⟩ | ⟨front, cut⟩
      · exact ⟨c, d, deed, first, member, step, .refl, here, by rw [grown, here]⟩
      · exact earlier front cut

/-! ## Flags and the events that raise them -/

section Flags

variable {deed : Deed} {deeds : List Deed} {b c : Bench}

theorem Step.outputClosed_iff (step : Step deed b c) :
    c.session.outputClosed = true ↔ b.session.outputClosed = true ∨
      ∃ moment, c.history = b.history ++ [⟨moment, .closed⟩] := by
  cases step with
  | alike same => simp [history, same.journal, same.session]
  | close => simp
  | _ => simp [notePause, history, note, withSession]

theorem Step.aborted_iff (step : Step deed b c) :
    c.aborted = true ↔ b.aborted = true ∨
      ∃ moment, c.history = b.history ++ [⟨moment, .aborted⟩] := by
  cases step with
  | alike same => simp [history, same.journal, same.aborted]
  | abort => simp [history, note]
  | _ => simp [notePause, history, note, withSession]

/-- A flag that only one event raises is up if it was up before or the event is among the news. -/
theorem Evolves.raised_iff (flag : Bench → Bool) {event : Event} (evolves : Evolves deeds b c)
    (raises : ∀ deed b c, Step deed b c → (flag c = true ↔ flag b = true ∨
      ∃ moment, c.history = b.history ++ [⟨moment, event⟩]))
    {news : List Entry} (grown : c.history = b.history ++ news) :
    flag c = true ↔ flag b = true ∨ ∃ entry ∈ news, entry.event = event := by
  induction evolves generalizing news with
  | refl =>
    obtain rfl := List.self_eq_append_right.mp grown
    simp
  | @tail d e first last ih =>
    obtain ⟨deed, member, step⟩ := last
    obtain ⟨early, before, _⟩ := Evolves.news first
    rw [raises deed d e step, ih before]
    rcases step.history_eq with same | ⟨entry, added, _⟩
    · rw [same, before, List.append_cancel_left_eq] at grown
      subst grown
      simp [same]
    · rw [added, before, List.append_assoc, List.append_cancel_left_eq] at grown
      subst grown
      have raised : (∃ moment, entry = ⟨moment, event⟩) ↔ entry.event = event := by
        cases entry
        simp
      simp [added, raised, or_and_right, exists_or, or_assoc]

end Flags

end Bench

end ConsoleHarness
