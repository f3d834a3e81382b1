import ConsoleHarness.Bench.Progress
import ConsoleHarness.Session.Marker

/-! # Readers

`Bench.readUntil` consumes output until the text read by this call ends with a marker, the deadline
passes, the output is used up and over, or the run is cancelled.  Every unit lands in the
transcript before the deadline is looked at.  When the marker ends inside a chunk, the rest of the
chunk stays pending for the next read.  `Bench.drain` consumes whatever is left, until the end of
the output or its deadline.

Both loops end because each pause makes progress (`Bench.waitForOutput_progress`): the measure is
the weight of the bench, then the whole milliseconds left before the deadline.
-/

namespace ConsoleHarness

/-- Why a read stopped. -/
inductive ReadEnd where
  | marker
  | timeout
  | closed
  | interrupted
  deriving DecidableEq, Repr

/-- The name of a reason. -/
def ReadEnd.text : ReadEnd → String
  | .marker => "marker"
  | .timeout => "timeout"
  | .closed => "closed"
  | .interrupted => "interrupted"

/-- What a read gives: why it stopped, the text that it consumed, and the time it took. -/
structure Reading where
  reason : ReadEnd
  text : String
  elapsed : Millis
  deriving DecidableEq, Repr

/-- Whether the read found its marker. -/
def Reading.found (r : Reading) : Bool := r.reason = .marker

namespace Bench

/-! ## One chunk -/

/-- The bench after the oldest chunk was taken and recorded whole. -/
def recordChunk (b : Bench) (chunk : String) (session : Session) : Bench × Except Fault Unit :=
  (b.withSession session).record chunk

/-- The bench after the part of a chunk up to the marker was recorded, the rest was returned, and
the prompt was noted. -/
def recordMarked (b : Bench) (chunk : String) (session : Session) (count : Nat) :
    Bench × Except Fault String :=
  let unit := String.ofList (chunk.toList.take count)
  match (b.withSession session).record unit with
  | (b, .error fault) => (b, .error fault)
  | (b, .ok ()) =>
    let rest := String.ofList (chunk.toList.drop count)
    ((b.withSession (b.session.pushBack rest)).markPromptReady, .ok unit)

/-- Taking a chunk makes the bench lighter. -/
theorem weight_recordChunk_lt {b : Bench} {chunk : String} {session : Session}
    (taken : b.session.takeChunk = some (chunk, session)) :
    (b.recordChunk chunk session).1.weight < b.weight := by
  have lighter : (b.withSession session).weight < b.weight := by
    unfold Session.takeChunk at taken
    split at taken
    · simp at taken
    · rename_i first rest same
      simp only [Option.some.injEq, Prod.mk.injEq] at taken
      simp [weight, ← taken.2, same]
  unfold recordChunk record
  split
  · exact lighter
  · rename_i recorded written
    rw [weight_note, weight_withSession _ _ (by
      unfold Session.record at written
      split at written
      · rw [← Except.ok.inj written]
      · simp at written)]
    exact lighter

/-! ## The time left -/

/-- The whole milliseconds left before a deadline, rounded up. -/
def timeLeft (b : Bench) (deadline : Millis) : Nat := (-(b.clock - deadline).floor).toNat

/-- A millisecond that passes before the deadline makes the time left shorter. -/
theorem timeLeft_lt {b c : Bench} {deadline : Millis} (left : ¬ deadline - b.clock ≤ 0)
    (later : b.clock + 1 ≤ c.clock) : c.timeLeft deadline < b.timeLeft deadline := by
  have early : b.clock - deadline < 0 := by grind
  have below : (b.clock - deadline).floor < 0 := Rat.floor_lt_iff.mpr (by simpa using early)
  have next : (b.clock - deadline).floor + 1 ≤ (c.clock - deadline).floor := by
    apply Rat.le_floor_iff.mpr
    have lower := Rat.floor_le (b.clock - deadline)
    rw [Rat.intCast_add]
    grind
  unfold timeLeft
  omega

/-- A pause of a reader that has time left makes progress in the readers' measure. -/
theorem waitForOutput_lex {b : Bench} {deadline : Millis} {heeds : Bool}
    (taken : b.session.takeChunk = none) (opened : b.session.outputClosed = false)
    (unheeded : (heeds && b.aborted) = false) (left : ¬ deadline - b.clock ≤ 0) :
    Prod.Lex (· < ·) (· < ·)
      ((b.waitForOutput (deadline - b.clock) heeds).weight,
        (b.waitForOutput (deadline - b.clock) heeds).timeLeft deadline)
      (b.weight, b.timeLeft deadline) := by
  have pending : b.session.pending = [] := by
    unfold Session.takeChunk at taken
    split at taken
    · assumption
    · simp at taken
  rcases waitForOutput_progress b (deadline - b.clock) heeds pending opened unheeded left with
    less | ⟨le, late⟩
  · exact .left _ _ less
  · rcases Nat.lt_or_eq_of_le le with less | same
    · exact .left _ _ less
    · rw [same]
      apply Prod.Lex.right
      apply timeLeft_lt left
      have whole : ((1 : Nat) : Millis) ≤ (Timer.delay (deadline - b.clock) : Nat) :=
        Rat.natCast_le_natCast.mpr (Timer.one_le_delay _)
      grind

/-! ## Reading up to a marker -/

/-- The loop of a read: the window and the text belong to this call only. -/
def readLoop (marker : List Char) (deadline : Millis) (heeds : Bool) (window : List Char)
    (text : String) (b : Bench) : Bench × Except Fault (ReadEnd × String) :=
  if _ : heeds && b.aborted then (b, .ok (.interrupted, text))
  else
    match _ : b.session.takeChunk with
    | some (chunk, session) =>
      match Marker.endIn? marker window 0 chunk.toList with
      | some count =>
        match b.recordMarked chunk session count with
        | (b, .error fault) => (b, .error fault)
        | (b, .ok unit) => (b, .ok (.marker, text ++ unit))
      | none =>
        match (b.recordChunk chunk session).2 with
        | .error fault => ((b.recordChunk chunk session).1, .error fault)
        | .ok () =>
          readLoop marker deadline heeds (Marker.windowAfter marker window chunk.toList)
            (text ++ chunk) (b.recordChunk chunk session).1
    | none =>
      if _ : b.session.outputClosed then (b, .ok (.closed, text))
      else if _ : deadline - b.clock ≤ 0 then (b, .ok (.timeout, text))
      else
        readLoop marker deadline heeds window text
          (b.waitForOutput (deadline - b.clock) heeds)
  termination_by (b.weight, b.timeLeft deadline)
  decreasing_by
    · exact .left _ _ (weight_recordChunk_lt ‹_›)
    · rename_i unheeded taken closed left
      exact waitForOutput_lex taken (by simpa using closed) (by simpa using unheeded) left

/-- Reads until the text of this call ends with the marker, which must not be empty. -/
def readUntil (b : Bench) (marker : String) (limit : Millis) (heeds : Bool) :
    Bench × Except Fault Reading :=
  if marker.isEmpty then (b, .error .emptyMarker)
  else
    match readLoop marker.toList (b.clock + limit) heeds [] "" b with
    | (after, .error fault) => (after, .error fault)
    | (after, .ok (reason, text)) =>
      (after, .ok { reason, text, elapsed := after.clock - b.clock })

/-! ## Draining -/

/-- The loop of a drain. -/
def drainLoop (deadline : Millis) (text : String) (b : Bench) : Bench × Except Fault String :=
  match _ : b.session.takeChunk with
  | some (chunk, session) =>
    match (b.recordChunk chunk session).2 with
    | .error fault => ((b.recordChunk chunk session).1, .error fault)
    | .ok () => drainLoop deadline (text ++ chunk) (b.recordChunk chunk session).1
  | none =>
    if _ : b.session.outputClosed then (b, .ok text)
    else if _ : deadline - b.clock ≤ 0 then (b, .ok text)
    else drainLoop deadline text (b.waitForOutput (deadline - b.clock) false)
  termination_by (b.weight, b.timeLeft deadline)
  decreasing_by
    · exact .left _ _ (weight_recordChunk_lt ‹_›)
    · rename_i taken closed left
      exact waitForOutput_lex taken (by simpa using closed) rfl left

/-- Consumes whatever output is left, until its end or the deadline. -/
def drain (b : Bench) (limit : Millis) : Bench × Except Fault String :=
  drainLoop (b.clock + limit) "" b

end Bench

end ConsoleHarness
