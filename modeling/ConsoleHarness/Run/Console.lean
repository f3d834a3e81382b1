import ConsoleHarness.Bench.Journal
import ConsoleHarness.Report.Mirror

/-! # What a run shows

Console output is mirrored to the standard output, unit by unit.  With the default console, log
lines and the report are shown too: information and the report on the standard output, warnings and
errors on the standard error.
-/

namespace ConsoleHarness

/-- A log line as it is shown.  The newline before it keeps it off the end of a mirrored line. -/
def logLine (message : String) : String := s!"\n[harness] {message}\n"

/-- Whether a log line goes to the standard error. -/
def LogLevel.toError : LogLevel → Bool
  | .info => false
  | .warn | .error => true

/-- Where a run shows what. -/
structure Show where
  /-- How output is mirrored to the standard output. -/
  mirror : MirrorMode
  /-- Log and report are shown. -/
  console : Bool
  /-- How control sequences are removed. -/
  strip : String → String := Text.Ansi.strip

namespace Show

/-- What an event adds to the standard output. -/
def output (s : Show) : Event → String
  | .recorded unit => (s.mirror.show? s.strip unit).getD ""
  | .logged level message => if s.console && !level.toError then logLine message else ""
  | .printed line => if s.console then line ++ "\n" else ""
  | _ => ""

/-- What an event adds to the standard error. -/
def error (s : Show) : Event → String
  | .logged level message => if s.console && level.toError then logLine message else ""
  | _ => ""

/-- The standard output of a whole history. -/
def stdout (s : Show) (history : List Entry) : String :=
  String.join (history.map (s.output ·.event))

/-- The standard error of a whole history. -/
def stderr (s : Show) (history : List Entry) : String :=
  String.join (history.map (s.error ·.event))

end Show

end ConsoleHarness
