import ConsoleHarness.Text.Units
import ConsoleHarness.Session.State

/-! # The transcript

Everything read from the console, in the order of its arrival.  Sealing freezes the text: a later
append is refused, whatever it would have added.
-/

namespace ConsoleHarness

/-- The text captured so far, its length in 16-bit units, and whether it is frozen. -/
structure Transcript where
  text : String := ""
  length : Nat := 0
  isSealed : Bool := false
  deriving DecidableEq, Repr, Inhabited

namespace Transcript

/-- Adds a unit of output at the end. -/
def append (t : Transcript) (unit : String) : Except Fault Transcript :=
  if t.isSealed then .error .sealedTranscript
  else .ok { t with text := t.text ++ unit, length := t.length + Text.units unit }

/-- Freezes the text. -/
def close (t : Transcript) : Transcript := { t with isSealed := true }

@[simp] theorem append_of_sealed {t : Transcript} {unit : String} (h : t.isSealed = true) :
    t.append unit = .error .sealedTranscript := by
  simp [append, h]

@[simp] theorem append_of_open {t : Transcript} {unit : String} (h : t.isSealed = false) :
    t.append unit
      = .ok { t with text := t.text ++ unit, length := t.length + Text.units unit } := by
  simp [append, h]

@[simp] theorem text_close (t : Transcript) : t.close.text = t.text := rfl
@[simp] theorem length_close (t : Transcript) : t.close.length = t.length := rfl
@[simp] theorem isSealed_close (t : Transcript) : t.close.isSealed = true := rfl

end Transcript

end ConsoleHarness
