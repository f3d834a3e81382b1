import ConsoleHarness.Text.Ansi

/-! # The mirror

Console output can be shown while a session runs: as it is, without control sequences, or not at
all.
-/

namespace ConsoleHarness

/-- How console output is shown. -/
inductive MirrorMode where
  | raw
  | plain
  | off
  deriving DecidableEq, Repr

namespace MirrorMode

/-- All modes, in the order in which messages list them. -/
def all : List MirrorMode := [.raw, .plain, .off]

/-- The name of a mode. -/
def text : MirrorMode → String
  | .raw => "raw"
  | .plain => "plain"
  | .off => "off"

/-- The mode of a name. -/
def ofText? (name : String) : Option MirrorMode := all.find? (·.text = name)

/-- What is shown of a unit of output, if anything is. -/
def show? (mode : MirrorMode) (strip : String → String := Text.Ansi.strip) (unit : String) :
    Option String :=
  match mode with
  | .raw => some unit
  | .plain =>
    let text := strip unit
    if text.isEmpty then none else some text
  | .off => none

end MirrorMode

end ConsoleHarness
