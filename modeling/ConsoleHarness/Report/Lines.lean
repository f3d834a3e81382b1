import ConsoleHarness.Report.Verdict

/-! # The report

The lines that tell a verdict: one for each expectation, an empty one, and the count.
-/

namespace ConsoleHarness

/-- How lines are painted. -/
structure Painter where
  green : String → String
  red : String → String
  boldGreen : String → String
  boldRed : String → String

namespace Painter

/-- Lines stay as they are. -/
def plain : Painter := ⟨id, id, id, id⟩

/-- A text between two escape sequences of a terminal. -/
def wrap (start stop : Nat) (text : String) : String :=
  if text.isEmpty then text else s!"\x1b[{start}m{text}\x1b[{stop}m"

/-- Lines are painted for a terminal. -/
def terminal : Painter where
  green := wrap 32 39
  red := wrap 31 39
  boldGreen := wrap 1 22 ∘ wrap 32 39
  boldRed := wrap 1 22 ∘ wrap 31 39

end Painter

namespace Verdict

/-- The line of one expectation. -/
def line (painter : Painter) (j : Judged) : String :=
  if j.passed then painter.green "[PASS]" ++ s!" {j.label}"
  else painter.red "[FAIL]" ++ s!" {j.label} - expected '{j.expected}'"

/-- The line that counts the expectations that were met. -/
def summary (v : Verdict) : String := s!"Passed {v.passed}/{v.total} tests"

/-- All lines. -/
def lines (painter : Painter) (v : Verdict) : List String :=
  v.outcomes.map (line painter) ++
    ["", if v.ok then painter.boldGreen v.summary else painter.boldRed v.summary]

end Verdict

end ConsoleHarness
