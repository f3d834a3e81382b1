import ConsoleHarness.Files
import ConsoleHarness.Report.Mirror

/-! # Issues of a configuration

What can be wrong with a configuration, and where.  A warning is reported and passed over; an error
makes the configuration unusable.
-/

namespace ConsoleHarness

/-- How bad an issue is. -/
inductive Severity where
  | error
  | warning
  deriving DecidableEq, Repr

/-- The name of a severity, as it stands at the start of a line. -/
def Severity.heading : Severity → String
  | .error => "ERROR"
  | .warning => "WARNING"

/-- What is wrong at some place of a configuration. -/
inductive Problem where
  | unknownKey
  | notMapping (received : String)
  | notText (received : String)
  | emptyText
  | notDuration
  | notTextList
  | notTextItem
  | notList
  | noExpectation
  | notExpectation
  | required
  | notMirrorMode
  | notConfig
  /-- The environment names a mirror mode that does not exist. -/
  | unknownMirrorMode (name : String)
  /-- The file cannot be read. -/
  | unreadable (failure : FileError)
  /-- The text is no document. -/
  | malformed (reason : String)
  deriving DecidableEq, Repr

/-- The text of a problem. -/
def Problem.message : Problem → String
  | .unknownKey => "Unknown key."
  | .notMapping received => s!"Expected object, received {received}."
  | .notText received => s!"Expected string, received {received}."
  | .emptyText => "Must not be empty."
  | .notDuration => "Expected a non-negative number of milliseconds."
  | .notTextList => "Expected a list of strings."
  | .notTextItem => "Expected string."
  | .notList => "Expected a list."
  | .noExpectation => "At least one expectation is required."
  | .notExpectation => "Expected an object with label and expected."
  | .required => "Required."
  | .notMirrorMode =>
    "Expected one of " ++ String.intercalate ", " (MirrorMode.all.map MirrorMode.text) ++ "."
  | .notConfig => "Config must be a mapping."
  | .unknownMirrorMode name => s!"Ignoring unknown mirror mode \"{name}\"."
  | .unreadable failure => failure.message
  | .malformed reason => reason

/-- The text of a place: the keys on the way to it. -/
def placeText (place : List String) : String :=
  if place.isEmpty then "<root>" else String.intercalate "." place

/-- A problem and its place. -/
structure Issue where
  severity : Severity
  place : List String
  problem : Problem
  deriving DecidableEq, Repr

namespace Issue

/-- Whether an issue makes a configuration unusable. -/
def isError (i : Issue) : Bool := i.severity = .error

/-- The line of an issue. -/
def line (i : Issue) : String := s!"{i.severity.heading} {placeText i.place}: {i.problem.message}"

end Issue

/-- A configuration was refused: where it came from, and why. -/
structure ConfigError where
  source : String
  issues : List Issue
  deriving DecidableEq, Repr

/-- The text of a refusal. -/
def ConfigError.message (e : ConfigError) : String :=
  s!"Invalid harness config at {e.source}\n" ++
    String.intercalate "\n"
      (e.issues.map fun i => "- " ++ placeText i.place ++ ": " ++ i.problem.message)

end ConsoleHarness
