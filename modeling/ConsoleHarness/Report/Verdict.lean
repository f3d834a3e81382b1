import ConsoleHarness.Text.Units

/-! # The verdict

A run passes when every expected text occurs in its transcript.  Entries are judged one by one and
keep their order; the verdict looks at nothing else than the transcript.
-/

namespace ConsoleHarness

/-- A text that a transcript should contain, and what it stands for. -/
structure Expectation where
  label : String
  expected : String
  deriving DecidableEq, Repr

/-- The expectations of a run that was given none. -/
def Expectation.defaults : List Expectation :=
  [ { label := "Shell loaded", expected := "Welcome to BogoShell!" },
    { label := "Hello app ran", expected := "Hello from C World!" },
    { label := "Shutdown initiated", expected := "Shutting down..." } ]

/-- An expectation and whether it was met. -/
structure Judged where
  label : String
  expected : String
  passed : Bool
  deriving DecidableEq, Repr

/-- What came of all expectations. -/
structure Verdict where
  outcomes : List Judged
  passed : Nat
  total : Nat
  ok : Bool
  deriving DecidableEq, Repr

namespace Verdict

/-- Looks for one expected text. -/
def judge (transcript : String) (e : Expectation) : Judged where
  label := e.label
  expected := e.expected
  passed := Text.occursIn e.expected.toList transcript.toList

/-- Looks for all expected texts. -/
def ofTranscript (transcript : String) (expectations : List Expectation) : Verdict :=
  let outcomes := expectations.map (judge transcript)
  let passed := outcomes.countP (·.passed)
  { outcomes, passed, total := outcomes.length, ok := passed == outcomes.length }

/-- The exit code of a run with this verdict. -/
def exitCode (v : Verdict) : Nat := if v.ok then 0 else 1

end Verdict

end ConsoleHarness
