import Mathlib.Data.List.Basic
import ConsoleHarness.Session.Merge

/-! # Merging in the order of arrival

Whatever the order in which sources and target do what they do, the merged stream holds the data seen
before the first event that ends it, and is told to end once, at that event.  Both follow from what
one event does to a stream that is still open (`Sink.handle_of_open`), and from an ended stream being
left alone (`Sink.handle_of_ended`).
-/

namespace ConsoleHarness

namespace MergeEvent

/-- Whether an event ends the merged stream: an error of a source, or an error or the end of the
target. -/
def isEnd : MergeEvent → Bool
  | .reported _ | .destroyed _ | .failed | .gone => true
  | .data .. | .finished _ => false

/-- The chunk that an event brings. -/
def chunk? : MergeEvent → Option (List UInt8)
  | .data _ bytes => some bytes
  | _ => none

/-- The events that are seen of a course of events, given the sources that bring nothing any more. -/
def seen (silent : List Nat) : List MergeEvent → List MergeEvent
  | [] => []
  | event :: rest =>
    (if event.isSeen silent then [event] else []) ++ seen (event.silenced.toList ++ silent) rest

/-- No source has data or an error of its own after its end. -/
def Orderly (events : List MergeEvent) : Prop :=
  events.Pairwise fun first later => later.isSeen first.silenced.toList = true

/-- An orderly course is seen whole. -/
theorem seen_eq_self {silent : List Nat} {events : List MergeEvent}
    (fresh : ∀ event ∈ events, event.isSeen silent = true) (orderly : Orderly events) :
    seen silent events = events := by
  induction events generalizing silent with
  | nil => rfl
  | cons event rest ih =>
    obtain ⟨behind, orderly⟩ := List.pairwise_cons.mp orderly
    obtain ⟨first, others⟩ := List.forall_mem_cons.mp fresh
    have still : ∀ later ∈ rest, later.isSeen (event.silenced.toList ++ silent) = true := by
      intro later member
      have here := behind later member
      have before := others later member
      cases later <;> simp_all [isSeen]
    rw [seen, if_pos first, ih still orderly]
    rfl

end MergeEvent

namespace Sink

variable {s : Sink} {event : MergeEvent} {events : List MergeEvent}

/-! ## One event -/

theorem handle_of_ended (ended : s.ended = true) (event : MergeEvent) : s.handle event = s := by
  cases event <;> simp [handle, pass, close, ended]

/-- An open stream takes the chunk of an event, or ends with it. -/
theorem handle_of_open (opened : s.ended = false) (event : MergeEvent) :
    s.handle event =
      if event.isEnd then { s with ended := true, endings := s.endings + 1 }
      else { s with chunks := s.chunks ++ event.chunk?.toList } := by
  obtain ⟨chunks, ended, endings, late⟩ := s
  obtain rfl : ended = false := opened
  cases event <;> simp [handle, pass, close, write, finish, MergeEvent.isEnd, MergeEvent.chunk?]

/-! ## A course of events -/

theorem foldl_handle_of_ended (ended : s.ended = true) (events : List MergeEvent) :
    events.foldl handle s = s := by
  induction events with
  | nil => rfl
  | cons event rest ih => rw [List.foldl_cons, handle_of_ended ended, ih]

/-- An open stream takes all chunks up to the first event that ends it, and ends there. -/
theorem foldl_handle (opened : s.ended = false) (events : List MergeEvent) :
    events.foldl handle s =
      { chunks := s.chunks ++ (events.takeWhile (!·.isEnd)).filterMap (·.chunk?)
        ended := events.any (·.isEnd)
        endings := s.endings + (events.any (·.isEnd)).toNat
        late := s.late } := by
  induction events generalizing s with
  | nil =>
    obtain ⟨chunks, ended, endings, late⟩ := s
    obtain rfl : ended = false := opened
    simp
  | cons event rest ih =>
    rw [List.foldl_cons, handle_of_open opened]
    by_cases ends : event.isEnd = true
    · rw [if_pos ends, foldl_handle_of_ended rfl]
      simp [ends]
    · rw [if_neg ends, ih (by exact opened)]
      simp only [List.takeWhile_cons, List.any_cons]
      cases brought : event.chunk? <;> simp [ends, brought]

end Sink

namespace Merge

theorem sink_foldl_step (m : Merge) (events : List MergeEvent) :
    (events.foldl step m).sink = (MergeEvent.seen m.silent events).foldl Sink.handle m.sink := by
  induction events generalizing m with
  | nil => rfl
  | cons event rest ih =>
    rw [List.foldl_cons, ih, MergeEvent.seen, List.foldl_append]
    by_cases seen : event.isSeen m.silent = true <;> simp [step, seen]

/-- The merged stream as a function of what is seen. -/
theorem sink_run (events : List MergeEvent) :
    (run events).sink =
      { chunks := ((MergeEvent.seen [] events).takeWhile (!·.isEnd)).filterMap (·.chunk?)
        ended := (MergeEvent.seen [] events).any (·.isEnd)
        endings := ((MergeEvent.seen [] events).any (·.isEnd)).toNat } := by
  rw [run, sink_foldl_step, Sink.foldl_handle rfl]
  simp

theorem run_append (events more : List MergeEvent) :
    run (events ++ more) = more.foldl step (run events) :=
  List.foldl_append

theorem sink_run_of_ended {events : List MergeEvent} (ended : (run events).ended = true)
    (more : List MergeEvent) : (run (events ++ more)).sink = (run events).sink := by
  rw [run_append, sink_foldl_step, Sink.foldl_handle_of_ended ended]

/-- An open stream ends at an event that is seen and ends it. -/
theorem ended_step_of_open {m : Merge} (opened : m.ended = false) (event : MergeEvent) :
    (m.step event).ended = true ↔ event.isSeen m.silent = true ∧ event.isEnd = true := by
  have still : m.sink.ended = false := opened
  rw [ended, step]
  by_cases seen : event.isSeen m.silent = true
  · rw [if_pos seen, Sink.handle_of_open still]
    by_cases ends : event.isEnd = true
    · simp [seen, ends]
    · simp [ends, still]
  · rw [if_neg seen]
    simp [seen, still]

/-- The merged stream is made of the data seen before the first event that ends it.  It is told to end
once, at that event; the end of one source is none.  Nothing is written to it after that. -/
theorem merged_in_arrival_order (events : List MergeEvent) :
    (run events).sink.bytes =
      ((MergeEvent.seen [] events).takeWhile (!·.isEnd)).flatMap (·.chunk?.getD []) ∧
    (run events).sink.endings = (if ∃ event ∈ MergeEvent.seen [] events, event.isEnd then 1 else 0) ∧
    ((run events).ended = false → ∀ event, (run (events ++ [event])).ended = true ↔
      event.isSeen (run events).silent = true ∧ event.isEnd = true) ∧
    (∀ source, (run (events ++ [.finished source])).sink = (run events).sink) ∧
    ((run events).ended = true → ∀ more, (run (events ++ more)).sink = (run events).sink) ∧
    (run events).sink.late = [] ∧
    (MergeEvent.Orderly events → MergeEvent.seen [] events = events) := by
  have sink := sink_run events
  refine ⟨?_, ?_, fun opened event => ?_, fun source => ?_, sink_run_of_ended, ?_, fun orderly => ?_⟩
  · rw [Sink.bytes, sink, List.flatMap_def]
    induction (MergeEvent.seen [] events).takeWhile (!·.isEnd) with
    | nil => rfl
    | cons event rest ih => cases brought : event.chunk? <;> simp_all
  · rw [sink]
    simp only [← List.any_eq_true]
    cases (MergeEvent.seen [] events).any (·.isEnd) <;> rfl
  · rw [run_append]
    exact ended_step_of_open opened event
  · rw [run_append]
    rfl
  · rw [sink]
  · refine MergeEvent.seen_eq_self (fun event _ => ?_) orderly
    cases event <;> rfl

/-- Two sources: the end of the first leaves the second open, an error of which is the end. -/
example :
    (run [.data 0 [1], .data 1 [2], .finished 0, .data 1 [3], .destroyed 1, .reported 0, .gone]).sink =
      { chunks := [[1], [2], [3]], ended := true, endings := 1 } := by decide

end Merge

end ConsoleHarness
