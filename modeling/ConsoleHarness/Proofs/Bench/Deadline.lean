import ConsoleHarness.Proofs.Bench.Beats
import ConsoleHarness.Proofs.Bench.Scanning

/-! # Readers keep their deadlines

Three things can end a read before its deadline: the marker stands in what is available to it, the
output is over, or a cancellation calls it off.  `Bench.Cause` reads them off what was written down
until some moment.  A read ends at the first moment at which one of them is there, and has consumed
by every earlier moment all that had arrived by then; without any of them it ends at its deadline,
or less than a millisecond after it, however its timers count.
-/

namespace ConsoleHarness

/-- What was written down until a moment. -/
def upTo (moment : Millis) (news : List Entry) : List Entry :=
  news.filter (·.moment ≤ moment)

theorem upTo_append {moment : Millis} {early late : List Entry}
    (before : ∀ entry ∈ early, entry.moment ≤ moment)
    (after : ∀ entry ∈ late, moment < entry.moment) : upTo moment (early ++ late) = early := by
  have kept : upTo moment early = early :=
    List.filter_eq_self.mpr fun entry member => by simpa using before entry member
  have dropped : upTo moment late = [] :=
    List.filter_eq_nil_iff.mpr fun entry member => by simpa using after entry member
  rw [upTo, List.filter_append]
  rw [upTo] at kept dropped
  rw [kept, dropped, List.append_nil]

namespace Bench

/-! ## What ends a read -/

/-- The output is over after some news. -/
def Over (b : Bench) (news : List Entry) : Prop :=
  b.session.outputClosed = true ∨ ∃ entry ∈ news, entry.event = .closed

/-- The reason is there for a read to stop after some news. -/
def Cause (marker : String) (heeds : Bool) (b : Bench) (news : List Entry) : ReadEnd → Prop
  | .marker => ∃ start, start <+: (b.available news).toList ∧ marker.toList <:+ start
  | .closed => b.Over news
  | .interrupted => heeds = true ∧ (b.aborted = true ∨ ∃ entry ∈ news, entry.event = .aborted)
  | .timeout => False

section Causes

variable {deeds : List Deed} {b c : Bench} {marker : String} {heeds : Bool} {news : List Entry}

theorem over_iff (evolves : Evolves deeds b c) (grown : c.history = b.history ++ news) :
    b.Over news ↔ c.session.outputClosed = true :=
  (evolves.raised_iff (·.session.outputClosed) (fun _ _ _ step => step.outputClosed_iff) grown).symm

theorem cause_interrupted_iff (evolves : Evolves deeds b c)
    (grown : c.history = b.history ++ news) :
    Cause marker heeds b news .interrupted ↔ (heeds && c.aborted) = true := by
  rw [Bool.and_eq_true,
    evolves.raised_iff (·.aborted) (fun _ _ _ step => step.aborted_iff) grown]
  rfl

/-- While a reader waits, there is no reason to stop. -/
theorem not_cause_of_idle (evolves : Evolves deeds b c) (grown : c.history = b.history ++ news)
    (idle : Idle heeds c) (unmarked : Marker.Absent marker.toList (b.available news).toList)
    (reason : ReadEnd) : ¬ Cause marker heeds b news reason := by
  cases reason with
  | marker =>
    rintro ⟨start, before, ends⟩
    exact unmarked start before ends
  | closed =>
    intro finished
    have closed := (over_iff evolves grown).mp finished
    rw [idle.opened] at closed
    contradiction
  | interrupted =>
    rw [cause_interrupted_iff evolves grown, idle.calm]
    simp
  | timeout => exact id

/-- A waiting reader has consumed all that has arrived. -/
theorem consumedIn_of_empty (evolves : Evolves readDeeds b c)
    (opened : b.session.transcript.isSealed = false) (grown : c.history = b.history ++ news)
    (empty : c.session.pending = []) : consumedIn news = b.available news := by
  have conserved := (evolves.conserved (by simp) (by simp) opened grown).2
  rwa [empty, String.join_nil, String.append_empty] at conserved

end Causes

/-! ## Reads -/

/-- How a read from `b` to `c` keeps its deadline. -/
structure OnTime (marker : String) (limit : Millis) (heeds : Bool) (b : Bench) (news : List Entry)
    (c : Bench) (reading : Reading) : Prop where
  elapsed : reading.elapsed = c.clock - b.clock
  /-- Before its end there was no reason to stop. -/
  uncaused : ∀ moment, b.clock ≤ moment → moment < c.clock →
    ∀ reason, ¬ Cause marker heeds b (upTo moment news) reason
  /-- Before its end it was never behind the output. -/
  abreast : ∀ moment, b.clock ≤ moment → moment < c.clock →
    consumedIn (upTo moment news) = b.available (upTo moment news)
  caused : reading.reason ≠ .timeout → Cause marker heeds b news reading.reason
  usedUp : reading.reason = .closed → c.session.pending = []
  unstopped : reading.reason = .timeout → ∀ reason, ¬ Cause marker heeds b news reason
  expired : reading.reason = .timeout → max 0 limit ≤ reading.elapsed
  bounded : reading.elapsed < max 0 limit + 1

section Reads

variable {marker : String} {limit : Millis} {heeds : Bool} {b c : Bench} {news : List Entry}
  {reading : Reading}

/-- What was written down until a moment at which the reader waits. -/
theorem exists_waiting {waiting : Bench → Prop} (beats : Beats waiting b c)
    (grown : c.history = b.history ++ news) {moment : Millis} (started : b.clock ≤ moment)
    (running : moment < c.clock) :
    ∃ d, Evolves readDeeds b d ∧ waiting d ∧ d.history = b.history ++ upTo moment news := by
  obtain ⟨d, later, reached, idle, before, rest, after⟩ := beats.waiting_at started running
  obtain ⟨early, split, dated⟩ := reached.news_between
  rw [rest, split, List.append_assoc, List.append_cancel_left_eq] at grown
  refine ⟨d, reached, idle, ?_⟩
  rw [split, ← grown, upTo_append (fun entry member => (dated entry member).2.2.trans before) after]

/-- A reader without its marker has nothing in what was available to it. -/
theorem not_cause_of_unmarked (evolves : Evolves readDeeds b c)
    (opened : b.session.transcript.isSealed = false) (grown : c.history = b.history ++ news)
    (unmarked : Unmarked marker.toList heeds (consumedIn b.history) c) (reason : ReadEnd) :
    ¬ Cause marker heeds b news reason := by
  obtain ⟨idle, text, consumed, absent⟩ := unmarked
  rw [grown, consumedIn_append, String.append_right_inj,
    consumedIn_of_empty evolves opened grown idle.empty] at consumed
  exact not_cause_of_idle evolves grown idle (consumed ▸ absent) reason

theorem clock_readUntil (b : Bench) (marker : String) (limit : Millis) (heeds : Bool) :
    (b.readUntil marker limit heeds).1.clock < b.clock + max 0 limit + 1 := by
  have positive := le_max_left 0 limit
  have above := le_max_right 0 limit
  unfold readUntil
  split
  · linarith
  · have loop := clock_readLoop marker.toList (b.clock + limit) heeds [] "" b
    split <;> rename_i same <;> rw [same] at loop <;> rcases loop with now | before <;> linarith

theorem elapsed_of_readUntil (done : b.readUntil marker limit heeds = (c, .ok reading)) :
    reading.elapsed = c.clock - b.clock := by
  unfold readUntil at done
  split at done
  · simp at done
  · split at done
    · simp at done
    · obtain ⟨rfl, same⟩ := Prod.mk.inj done
      rw [← Except.ok.inj same]

/-- A read that ran out of time has nothing else to do at its end. -/
theorem idle_of_timeout (filled : marker ≠ "")
    (done : b.readUntil marker limit heeds = (c, .ok reading))
    (timeout : reading.reason = .timeout) : Idle heeds c ∧ b.clock + limit ≤ c.clock := by
  have due := due_of_readUntil filled done (by simp [timeout])
  rw [timeout] at due
  obtain ⟨empty, closed, calm, late⟩ := due
  exact ⟨⟨empty, closed, calm⟩, late⟩

theorem onTime_of_readUntil (opened : b.session.transcript.isSealed = false) (filled : marker ≠ "")
    (done : b.readUntil marker limit heeds = (c, .ok reading))
    (grown : c.history = b.history ++ news) :
    OnTime marker limit heeds b news c reading := by
  have scans := scans_of_readUntil opened filled done grown
  have elapsed := elapsed_of_readUntil done
  have evolves := evolves_readUntil b marker limit heeds
  have beats := beats_readUntil filled limit heeds b
  have bounded := clock_readUntil b marker limit heeds
  rw [done] at evolves beats bounded
  refine
    { elapsed
      uncaused := fun moment started running => ?_
      abreast := fun moment started running => ?_
      caused := fun early => ?_
      usedUp := fun closed => scans.exhausted (by simp [Reading.found, closed]) (by simp [closed])
      unstopped := fun timeout => ?_
      expired := fun timeout => ?_
      bounded := by linarith }
  · obtain ⟨d, reached, unmarked, split⟩ := exists_waiting beats grown started running
    exact not_cause_of_unmarked reached opened split unmarked
  · obtain ⟨d, reached, unmarked, split⟩ := exists_waiting beats grown started running
    exact consumedIn_of_empty reached opened split unmarked.idle.empty
  · rcases (readUntil_ok filled done).2 with ⟨marked, -, -⟩ | ⟨due, -, -⟩
    · rw [marked]
      exact (scans.found_iff (by simp [marked])).mp (by simp [Reading.found, marked])
    · cases reason : reading.reason with
      | marker => exact absurd reason due.unfound
      | closed => rw [reason] at due; exact (over_iff evolves grown).mpr due.2
      | interrupted => exact (cause_interrupted_iff evolves grown).mpr (scans.cancelled reason)
      | timeout => exact absurd reason early
  · obtain ⟨idle, _⟩ := idle_of_timeout filled done timeout
    refine not_cause_of_idle evolves grown idle ?_
    have absent := scans.missed (by simp [Reading.found, timeout])
    have whole := scans.conserved
    rw [idle.empty, String.join_nil, String.append_empty] at whole
    rwa [← whole]
  · obtain ⟨_, late⟩ := idle_of_timeout filled done timeout
    have later := evolves.later
    rw [elapsed]
    exact max_le (by linarith) (by linarith)

end Reads

/-! ## Drains -/

/-- How a drain from `b` to `c` keeps its deadline. -/
structure DrainsOnTime (limit : Millis) (b : Bench) (news : List Entry) (c : Bench) : Prop where
  emptied : c.session.pending = []
  /-- Before its end the output was not over. -/
  unfinished : ∀ moment, b.clock ≤ moment → moment < c.clock → ¬ b.Over (upTo moment news)
  /-- Before its end it was never behind the output. -/
  abreast : ∀ moment, b.clock ≤ moment → moment < c.clock →
    consumedIn (upTo moment news) = b.available (upTo moment news)
  expired : ¬ b.Over news → max 0 limit ≤ c.clock - b.clock
  bounded : c.clock - b.clock < max 0 limit + 1

section Drains

variable {limit : Millis} {b c : Bench} {news : List Entry} {text : String}

theorem clock_drain (b : Bench) (limit : Millis) :
    (b.drain limit).1.clock < b.clock + max 0 limit + 1 := by
  have positive := le_max_left 0 limit
  have above := le_max_right 0 limit
  have loop := clock_drainLoop (b.clock + limit) "" b
  rw [← drain] at loop
  rcases loop with now | before <;> linarith

theorem drainsOnTime_of_drain (opened : b.session.transcript.isSealed = false)
    (done : b.drain limit = (c, .ok text)) (grown : c.history = b.history ++ news) :
    DrainsOnTime limit b news c := by
  have evolves : Evolves readDeeds b (b.drain limit).1 := (evolves_drain b limit).mono (by simp)
  have beats : Beats (Idle false) b (b.drain limit).1 := beats_drainLoop _ _ b
  have bounded := clock_drain b limit
  obtain ⟨m, more, -, ⟨same, empty, ended⟩ | ⟨-, closed⟩⟩ := drainLoop_spec (b.clock + limit) "" b
  · obtain ⟨rfl, -⟩ := Prod.mk.inj (same.symm.trans done)
    rw [done] at evolves beats bounded
    refine ⟨empty, fun moment started running finished => ?_, fun moment started running => ?_,
      fun unfinished => ?_, by linarith⟩
    · obtain ⟨d, reached, idle, split⟩ := exists_waiting beats grown started running
      have closed := (over_iff reached split).mp finished
      rw [idle.opened] at closed
      contradiction
    · obtain ⟨d, reached, idle, split⟩ := exists_waiting beats grown started running
      exact consumedIn_of_empty reached opened split idle.empty
    · have later := evolves.later
      have late := ended.resolve_left fun closed => unfinished ((over_iff evolves grown).mpr closed)
      exact max_le (by linarith) (by linarith)
  · exact absurd (closed.symm.trans opened) (by simp)

end Drains

/-! ## Whole milliseconds -/

/-- All times are whole milliseconds: the clock, and what is planned. -/
structure Integral (b : Bench) : Prop where
  clock : ∃ n : ℕ, b.clock = n
  agenda : ∀ item ∈ b.agenda, ∃ n : ℕ, item.due = n

section Integral

variable {b : Bench} {deadline : Millis} {heeds : Bool}

theorem integral_moveTo (now : ∃ n : ℕ, b.clock = n) {moment : Millis}
    (due : ∃ n : ℕ, moment = n) : ∃ n : ℕ, (b.moveTo moment).clock = n := by
  simp only [moveTo]
  split
  · exact due
  · exact now

theorem integral_runAgenda (w : Wait) {due : Millis} (timed : ∃ n : ℕ, due = n)
    {agenda : List Item} (now : ∃ n : ℕ, b.clock = n)
    (planned : ∀ item ∈ agenda, ∃ n : ℕ, item.due = n) :
    (runAgenda w (some due) b agenda).1.Integral := by
  induction agenda generalizing b with
  | nil => exact ⟨integral_moveTo now timed, by simp [runAgenda]⟩
  | cons item rest ih =>
    obtain ⟨first, others⟩ := List.forall_mem_cons.mp planned
    have stepped : ∃ n : ℕ, (b.step item rest).clock = n := by
      rw [clock_step]
      exact integral_moveTo now first
    rw [runAgenda]
    by_cases passed : due < item.due
    · rw [Option.filter_some_pos (by simpa using passed)]
      exact ⟨integral_moveTo now timed, planned⟩
    · rw [Option.filter_some_neg (by simpa using passed)]
      cases (b.step item rest).woken w with
      | some wake => exact ⟨stepped, by rw [agenda_step]; exact others⟩
      | none => exact ih stepped others

theorem Integral.pause (whole : b.Integral) {w : Wait} {delay : ℕ} (timed : w.timer = some delay) :
    (b.pause w).1.Integral := by
  obtain ⟨now, planned⟩ := whole
  have due : ∃ n : ℕ, b.clock + (delay : Millis) = n := by
    obtain ⟨n, same⟩ := now
    exact ⟨n + delay, by rw [same]; push_cast; rfl⟩
  simp only [Bench.pause, timed, Option.map_some]
  generalize b.clock + (delay : Millis) = moment at due
  have entered : ∃ n : ℕ, (b.register w (some moment)).tick.notePause.clock = n := by
    simpa [notePause] using now
  have listed : ∀ item ∈ (b.register w (some moment)).tick.notePause.agenda,
      ∃ n : ℕ, item.due = n := by
    simpa [register] using planned
  unfold pauseBody
  split
  · exact ⟨now, planned⟩
  · dsimp only
    split
    · exact ⟨entered, listed⟩
    · have ran := integral_runAgenda w due entered listed
      exact ⟨ran.clock, ran.agenda⟩

theorem Integral.waitForOutput (whole : b.Integral) (limit : Millis) (heeds : Bool) :
    (b.waitForOutput limit heeds).Integral := by
  unfold Bench.waitForOutput
  split
  · exact whole
  · exact whole.pause rfl

theorem Integral.record (whole : b.Integral) (unit : String) : (b.record unit).1.Integral := by
  unfold Bench.record
  split
  · exact whole
  · exact ⟨whole.clock, whole.agenda⟩

theorem Integral.recordMarked (whole : b.Integral) (chunk : String) (session : Session)
    (count : Nat) : (b.recordMarked chunk session count).1.Integral := by
  have taken : (b.withSession session).Integral := ⟨whole.clock, whole.agenda⟩
  have recorded := taken.record (String.ofList (chunk.toList.take count))
  unfold Bench.recordMarked
  dsimp only
  split <;> rename_i same <;> rw [same] at recorded
  · exact recorded
  · exact ⟨recorded.clock, recorded.agenda⟩

theorem Integral.recordChunk (whole : b.Integral) (chunk : String) (session : Session) :
    (b.recordChunk chunk session).1.Integral := by
  have taken : (b.withSession session).Integral := ⟨whole.clock, whole.agenda⟩
  exact taken.record chunk

theorem Integral.readLoop (whole : b.Integral) (marker window : List Char) (text : String) :
    (readLoop marker deadline heeds window text b).1.Integral := by
  fun_induction Bench.readLoop marker deadline heeds window text b with
  | case1 | case6 | case7 => exact whole
  | case2 window text b _ chunk session taken count inside after fault refused
  | case3 window text b _ chunk session taken count inside after fault refused =>
    have recorded := whole.recordMarked chunk session count
    rwa [refused] at recorded
  | case4 => exact whole.recordChunk _ _
  | case5 window text b _ chunk session taken passed recorded ih =>
    exact ih (whole.recordChunk chunk session)
  | case8 window text b _ taken _ left ih => exact ih (whole.waitForOutput _ heeds)

theorem Integral.drainLoop (whole : b.Integral) (text : String) :
    (drainLoop deadline text b).1.Integral := by
  fun_induction Bench.drainLoop deadline text b with
  | case1 => exact whole.recordChunk _ _
  | case2 text b chunk session taken recorded ih => exact ih (whole.recordChunk chunk session)
  | case3 | case4 => exact whole
  | case5 text b taken _ left ih => exact ih (whole.waitForOutput _ false)

theorem Integral.readUntil (whole : b.Integral) (marker : String) (limit : Millis) :
    (b.readUntil marker limit heeds).1.Integral := by
  have loop : (Bench.readLoop marker.toList (b.clock + limit) heeds [] "" b).1.Integral :=
    whole.readLoop marker.toList [] ""
  unfold Bench.readUntil
  split
  · exact whole
  · split <;> rename_i same <;> rw [same] at loop <;> exact loop

/-- Whole milliseconds that do not fall short of a whole limit, and exceed it by less than one, are
the limit. -/
theorem eq_of_integral {c : Bench} (before : b.Integral) (after : c.Integral) {limit : ℕ}
    (expired : max 0 (limit : Millis) ≤ c.clock - b.clock)
    (bounded : c.clock - b.clock < max 0 (limit : Millis) + 1) :
    c.clock - b.clock = limit := by
  obtain ⟨first, same⟩ := before.clock
  obtain ⟨last, same'⟩ := after.clock
  rw [max_eq_right (Nat.cast_nonneg limit)] at expired bounded
  rw [same, same'] at expired bounded ⊢
  have lower : first + limit ≤ last := by
    have : ((first + limit : ℕ) : Millis) ≤ last := by push_cast; linarith
    exact_mod_cast this
  have upper : last < first + limit + 1 := by
    have : (last : Millis) < ((first + limit + 1 : ℕ) : Millis) := by push_cast; linarith
    exact_mod_cast this
  obtain rfl : last = first + limit := by omega
  rw [Nat.cast_add, add_sub_cancel_left]

end Integral

/-- Whatever happens and however long the deadline, both readers return.  A read ends at the first
moment at which there is a reason to stop, a drain when the output is over; without that they end at
their deadline or less than a millisecond later, and exactly there if all times are whole. -/
theorem readers_keep_deadline (b : Bench) (opened : b.session.transcript.isSealed = false)
    {marker : String} (filled : marker ≠ "") (limit : Millis) (heeds : Bool) :
    (∃ c reading news, b.readUntil marker limit heeds = (c, .ok reading) ∧
      c.history = b.history ++ news ∧ OnTime marker limit heeds b news c reading ∧
      (b.Integral → ∀ n : ℕ, limit = n → reading.reason = .timeout → reading.elapsed = limit)) ∧
    ∃ c text news, b.drain limit = (c, .ok text) ∧ c.history = b.history ++ news ∧
      DrainsOnTime limit b news c ∧
      (b.Integral → ∀ n : ℕ, limit = n → ¬ b.Over news → c.clock - b.clock = limit) := by
  constructor
  · obtain ⟨c, reading, done⟩ := exists_reading opened filled limit heeds
    have evolves := evolves_readUntil b marker limit heeds
    rw [done] at evolves
    obtain ⟨news, grown, _⟩ := evolves.news
    have kept := onTime_of_readUntil opened filled done grown
    refine ⟨c, reading, news, done, grown, kept, ?_⟩
    rintro whole n rfl timeout
    have after : (b.readUntil marker n heeds).1.Integral := whole.readUntil marker n
    rw [done] at after
    have expired := kept.expired timeout
    have bounded := kept.bounded
    rw [kept.elapsed] at expired bounded ⊢
    exact eq_of_integral whole after expired bounded
  · obtain ⟨c, text, done⟩ := exists_drained opened limit
    have evolves := evolves_drain b limit
    rw [done] at evolves
    obtain ⟨news, grown, _⟩ := evolves.news
    have kept := drainsOnTime_of_drain opened done grown
    refine ⟨c, text, news, done, grown, kept, ?_⟩
    rintro whole n rfl unfinished
    have after : (b.drain n).1.Integral := whole.drainLoop ""
    rw [done] at after
    exact eq_of_integral whole after (kept.expired unfinished) kept.bounded

/-- A target that says nothing. -/
def silent : Bench := {}

/-- Half a millisecond is too short for a timer, so the second one of this read lasts too long. -/
theorem readUntil_silent :
    ∃ c, silent.readUntil "$ " (5 / 2) true = (c, .ok ⟨.timeout, "", 3⟩) := by
  let deadline : Millis := silent.clock + 5 / 2
  let first : Bench := silent.waitForOutput (deadline - silent.clock) true
  let second : Bench := first.waitForOutput (deadline - first.clock) true
  have loop : readLoop "$ ".toList deadline true [] "" silent = (second, .ok (.timeout, "")) := by
    rw [readLoop_of_empty rfl rfl rfl (by decide +kernel)]
    rw [readLoop_of_empty (by decide +kernel) (by decide +kernel) (by decide +kernel)
      (by decide +kernel)]
    exact readLoop_of_late (by decide +kernel) (by decide +kernel) (by decide +kernel)
      (by decide +kernel)
  have elapsed : second.clock - silent.clock = 3 := by decide +kernel
  refine ⟨second, ?_⟩
  rw [readUntil, if_neg (by decide), loop, ← elapsed]

theorem readers_keep_deadline_silent :
    ∃ c reading, silent.readUntil "$ " (5 / 2) true = (c, .ok reading) ∧
      reading.elapsed = 3 ∧ max 0 (5 / 2) ≤ reading.elapsed ∧
      reading.elapsed < max 0 (5 / 2) + 1 := by
  obtain ⟨m, found⟩ := readUntil_silent
  obtain ⟨⟨c, reading, news, done, -, kept, -⟩, -⟩ :=
    readers_keep_deadline silent rfl (show "$ " ≠ "" by decide) (5 / 2) true
  obtain ⟨rfl, same⟩ := Prod.mk.inj (found.symm.trans done)
  obtain rfl := Except.ok.inj same
  exact ⟨m, _, done, rfl, kept.expired rfl, kept.bounded⟩

end Bench

end ConsoleHarness
