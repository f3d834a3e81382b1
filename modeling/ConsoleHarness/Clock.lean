import ConsoleHarness.Number.Shortest

/-! # Time

Moments and spans are exact numbers of milliseconds.  A timer counts whole milliseconds only: a
delay is cut to an integer, and a delay below one millisecond or above `Timer.longest` is taken as
one millisecond.
-/

namespace ConsoleHarness

/-- A moment of the clock, or a span of time, in milliseconds. -/
abbrev Millis := Rat

/-- The text of a span, as it stands in messages. -/
def Millis.text (ms : Millis) : String := (Number.finite ms).text

namespace Timer

/-- The longest delay that a timer can count. -/
def longest : Nat := 2147483647

/-- The delay that a timer counts when it is asked for `ms`. -/
def delay (ms : Millis) : Nat :=
  if 1 ≤ ms ∧ ms ≤ (longest : Rat) then ms.floor.toNat else 1

/-- Every timer counts at least one millisecond. -/
theorem one_le_delay (ms : Millis) : 1 ≤ delay ms := by
  unfold delay
  split
  · rename_i h
    have : (1 : Int) ≤ ms.floor := Rat.le_floor_iff.mpr h.1
    omega
  · exact Nat.le_refl 1

end Timer

end ConsoleHarness
