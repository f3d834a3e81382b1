import ConsoleHarness.Config.Basic
import ConsoleHarness.Config.Issue
import ConsoleHarness.Config.Value

/-! # The schema of a configuration

A configuration document is a mapping with known keys.  Each part is read on its own: it gives a
setting or none, and the issues found on the way, so that every mistake is reported once and none
hides another.  A key whose value is `null` counts as missing.
-/

namespace ConsoleHarness.Schema

/-- The keys of a mapping with their values. -/
abbrev Entries := List (String × Value)

/-- What a part of a document gives: a setting, if it can be used, and its issues. -/
abbrev Found (α : Type) := Option α × List Issue

/-- An error at a place. -/
def errorAt (place : List String) (problem : Problem) : Issue := ⟨.error, place, problem⟩

def rootKeys : List String :=
  ["emulator", "prompt", "timeouts", "commands", "shutdownCommand", "artifactPath", "mirror",
    "expectations"]

def emulatorKeys : List String := ["command", "args", "kernelImage", "cwd"]

def timeoutKeys : List String :=
  ["bootMs", "promptMs", "settleMs", "exitMs", "killGraceMs", "drainMs"]

/-! ## Parts -/

/-- The keys that are not known. -/
def unknownKeys (entries : Entries) (known place : List String) (strict : Bool) : List Issue :=
  (entries.filter fun (key, _) => !known.contains key).map fun (key, _) =>
    ⟨if strict then .error else .warning, place ++ [key], .unknownKey⟩

/-- A mapping. -/
def readMapping (value : Value) (place : List String) : Found Entries :=
  match value with
  | .null => (none, [])
  | .mapping entries => (some entries, [])
  | other => (none, [errorAt place (.notMapping other.typeName)])

/-- A text that is not empty. -/
def readText (value : Value) (place : List String) : Found String :=
  match value with
  | .null => (none, [])
  | .text text => if text.isEmpty then (none, [errorAt place .emptyText]) else (some text, [])
  | other => (none, [errorAt place (.notText other.typeName)])

/-- A number of milliseconds. -/
def readDuration (value : Value) (place : List String) : Found Millis :=
  match value with
  | .null => (none, [])
  | .number (.finite ms) =>
    if 0 ≤ ms then (some ms, []) else (none, [errorAt place .notDuration])
  | _ => (none, [errorAt place .notDuration])

/-- The texts among the items of a list, and an issue for each other item. -/
def readItems (place : List String) (index : Nat) : List Value → List String × List Issue
  | [] => ([], [])
  | item :: rest =>
    let (texts, issues) := readItems place (index + 1) rest
    match item with
    | .text text => (text :: texts, issues)
    | _ => (texts, errorAt (place ++ [toString index]) .notTextItem :: issues)

/-- A list of texts. -/
def readTextList (value : Value) (place : List String) : Found (List String) :=
  match value with
  | .null => (none, [])
  | .list items =>
    let (texts, issues) := readItems place 0 items
    (some texts, issues)
  | _ => (none, [errorAt place .notTextList])

/-- The issue of a value that must not be missing. -/
def requireValue (value : Value) (place : List String) : List Issue :=
  if value.isNull then [errorAt place .required] else []

/-- An expectation. -/
def readExpectation (value : Value) (place : List String) : Found Expectation :=
  match value with
  | .mapping entries =>
    let label := Value.lookup "label" entries
    let expected := Value.lookup "expected" entries
    let (labelText, labelIssues) := readText label (place ++ ["label"])
    let (expectedText, expectedIssues) := readText expected (place ++ ["expected"])
    let issues := labelIssues ++ expectedIssues ++ requireValue label (place ++ ["label"]) ++
      requireValue expected (place ++ ["expected"])
    match labelText, expectedText with
    | some label, some expected => (some { label, expected }, issues)
    | _, _ => (none, issues)
  | _ => (none, [errorAt place .notExpectation])

/-- The expectations among the items of a list, and the issues of all items. -/
def readEntries (place : List String) (index : Nat) :
    List Value → List Expectation × List Issue
  | [] => ([], [])
  | item :: rest =>
    let (expectations, issues) := readEntries place (index + 1) rest
    let (expectation, own) := readExpectation item (place ++ [toString index])
    (expectation.toList ++ expectations, own ++ issues)

/-- A list of expectations that is not empty. -/
def readExpectations (value : Value) (place : List String) : Found (List Expectation) :=
  match value with
  | .null => (none, [])
  | .list items =>
    if items.isEmpty then (none, [errorAt place .noExpectation])
    else
      let (expectations, issues) := readEntries place 0 items
      (some expectations, issues)
  | _ => (none, [errorAt place .notList])

/-- A mirror mode. -/
def readMirror (value : Value) (place : List String) : Found MirrorMode :=
  match readText value place with
  | (some name, issues) =>
    match MirrorMode.ofText? name with
    | some mode => (some mode, issues)
    | none => (none, issues ++ [errorAt place .notMirrorMode])
  | (none, issues) => (none, issues)

/-- The emulator settings of a mapping. -/
def readEmulator (entries : Entries) (strict : Bool) : EmulatorLayer × List Issue :=
  let get (key : String) := Value.lookup key entries
  let place (key : String) := ["emulator", key]
  let (command, i₁) := readText (get "command") (place "command")
  let (args, i₂) := readTextList (get "args") (place "args")
  let (kernelImage, i₃) := readText (get "kernelImage") (place "kernelImage")
  let (cwd, i₄) := readText (get "cwd") (place "cwd")
  ({ command, args, kernelImage, cwd },
    unknownKeys entries emulatorKeys ["emulator"] strict ++ i₁ ++ i₂ ++ i₃ ++ i₄)

/-- The durations of a mapping. -/
def readTimeouts (entries : Entries) (strict : Bool) : TimeoutLayer × List Issue :=
  let read (key : String) := readDuration (Value.lookup key entries) ["timeouts", key]
  let (boot, i₁) := read "bootMs"
  let (prompt, i₂) := read "promptMs"
  let (settle, i₃) := read "settleMs"
  let (exit, i₄) := read "exitMs"
  let (killGrace, i₅) := read "killGraceMs"
  let (drain, i₆) := read "drainMs"
  ({ boot, prompt, settle, exit, killGrace, drain },
    unknownKeys entries timeoutKeys ["timeouts"] strict ++ i₁ ++ i₂ ++ i₃ ++ i₄ ++ i₅ ++ i₆)

/-- A part that is a mapping itself. -/
def readPart {α : Type} (value : Value) (place : List String)
    (read : Entries → α × List Issue) : Found α :=
  match readMapping value place with
  | (some entries, issues) =>
    let (part, more) := read entries
    (some part, issues ++ more)
  | (none, issues) => (none, issues)

/-! ## The whole document -/

/-- The layer of a mapping, and all issues in the order of the schema. -/
def readRoot (entries : Entries) (strict : Bool) : Layer × List Issue :=
  let get (key : String) := Value.lookup key entries
  let (emulator, i₁) := readPart (get "emulator") ["emulator"] (readEmulator · strict)
  let (prompt, i₂) := readText (get "prompt") ["prompt"]
  let (timeouts, i₃) := readPart (get "timeouts") ["timeouts"] (readTimeouts · strict)
  let (commands, i₄) := readTextList (get "commands") ["commands"]
  let (shutdownCommand, i₅) := readText (get "shutdownCommand") ["shutdownCommand"]
  let (artifactPath, i₆) := readText (get "artifactPath") ["artifactPath"]
  let (mirror, i₇) := readMirror (get "mirror") ["mirror"]
  let (expectations, i₈) := readExpectations (get "expectations") ["expectations"]
  ({ emulator, prompt, timeouts, commands, shutdownCommand, artifactPath, mirror, expectations },
    unknownKeys entries rootKeys [] strict ++ i₁ ++ i₂ ++ i₃ ++ i₄ ++ i₅ ++ i₆ ++ i₇ ++ i₈)

/-- The layer of a document, and its issues.  With `strict`, unknown keys are errors. -/
def validate (value : Value) (strict : Bool) : Layer × List Issue :=
  match value with
  | .null => ({}, [])
  | .mapping entries => readRoot entries strict
  | _ => ({}, [errorAt [] .notConfig])

end ConsoleHarness.Schema
