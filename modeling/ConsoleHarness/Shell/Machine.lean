import ConsoleHarness.Files
import ConsoleHarness.Session.State
import ConsoleHarness.Shell.Syntax
import ConsoleHarness.Text.Utf8

/-! # The state of a program

A program runs from its start on what it has been given to read so far.  It stops when it ends, or
when it needs input that has not come yet; with more input it is simply run again, and does the same
as before up to that point.  What it did is recorded as *steps*.
-/

namespace ConsoleHarness.Shell

/-- Something that a program did that can be seen from outside. -/
inductive Step where
  | write (bytes : List UInt8)
  | wait (span : Millis)
  /-- From here on other writes go on beside the program, for a while. -/
  | beside (writes : List (Millis × List UInt8)) (span : Millis)
  deriving DecidableEq, Repr

/-- Where a program reads from. -/
inductive Source where
  | console
  | bytes (content : List UInt8)
  | closed
  deriving DecidableEq, Repr

/-- Where a program writes to. -/
inductive Sink where
  | console
  | nowhere
  /-- The output is kept for an expansion or a pipe. -/
  | kept
  | file (path : Path)
  deriving DecidableEq, Repr

/-- Why a program went no further. -/
inductive Stop where
  /-- It needs input. -/
  | blocked
  | ended (exit : Exit)
  /-- It left a loop, began the next round of one, or left a function. -/
  | broke
  | continued
  | returned
  /-- It ran for too long. -/
  | exhausted
  deriving DecidableEq, Repr

/-- The streams of a program. -/
structure Streams where
  source : Source := .console
  output : Sink := .console
  errors : Sink := .console
  deriving DecidableEq, Repr

/-- The state of a program. -/
structure Machine where
  pid : Nat := 4242
  files : Files := {}
  cwd : Path := {}
  vars : List (String × String) := []
  /-- The name that the program runs under, and its arguments. -/
  name : String := "sh"
  args : List String := []
  functions : List (String × Command) := []
  status : Nat := 0
  /-- Signals that are passed over, and signals with a script to run. -/
  ignored : List String := []
  handlers : List (String × String) := []
  /-- What has come from the console and was not read yet. -/
  input : List UInt8 := []
  streams : Streams := {}
  kept : List UInt8 := []
  /-- What was done so far, newest first. -/
  steps : List Step := []
  deriving Inhabited

/-- A computation of a program. -/
abbrev Run := ExceptT Stop (StateM Machine)

namespace Machine

/-- A machine with one more step. -/
def record (m : Machine) (step : Step) : Machine := { m with steps := step :: m.steps }

/-- A machine that has written some bytes. -/
def write (m : Machine) (sink : Sink) (bytes : List UInt8) : Machine :=
  if bytes.isEmpty then m
  else
    match sink with
    | .console => m.record (.write bytes)
    | .nowhere => m
    | .kept => { m with kept := m.kept ++ bytes }
    | .file path =>
      let before := (m.files.read path).toOption.getD ""
      let text := before ++ String.ofList (Text.decode bytes)
      { m with files := (m.files.write path text).toOption.getD m.files }

/-- How long something still goes on beside the program. -/
def remaining (m : Machine) : Millis :=
  m.steps.foldr (fun step left =>
    match step with
    | .write _ => left
    | .wait span => if left ≤ span then 0 else left - span
    | .beside _ span => if left ≤ span then span else left) 0

/-- The value of a variable. -/
def lookup? (m : Machine) (name : String) : Option String := m.vars.lookup name

/-- A machine with another value of a variable. -/
def setVariable (m : Machine) (name value : String) : Machine :=
  { m with vars := (name, value) :: m.vars.filter (·.1 ≠ name) }

/-- The value of a parameter: a variable, an argument, or something about the program. -/
def parameter? (m : Machine) (name : String) : Option String :=
  match name with
  | "?" => some (toString m.status)
  | "$" => some (toString m.pid)
  | "#" => some (toString m.args.length)
  | "@" | "*" => some (String.intercalate " " m.args)
  | "0" => some m.name
  | "!" | "-" => some ""
  | _ =>
    match name.toNat? with
    | some n => m.args[n - 1]?
    | none => m.lookup? name

end Machine

/-! ## What a program does -/

/-- Writes to the output. -/
def put (bytes : List UInt8) : Run Unit :=
  modify fun m => m.write m.streams.output bytes

/-- Writes a text to the output. -/
def putText (text : String) : Run Unit := put (Text.encode text)

/-- Writes a line where errors go. -/
def complain (line : String) : Run Unit :=
  modify fun m => m.write m.streams.errors (Text.encode (line ++ "\n"))

/-- Sets the status of the last command. -/
def setStatus (status : Nat) : Run Unit := modify fun m => { m with status }

/-- Lets time pass. -/
def wait (span : Millis) : Run Unit :=
  if span = 0 then pure () else modify fun m => m.record (.wait span)

/-- The newline. -/
def newlineByte : UInt8 := 10

/-- Takes a line with its newline; at the end of the input what is left, if there is something. -/
def takeLine : Run (List UInt8) := do
  let m ← get
  match m.streams.source with
  | .closed => return []
  | .bytes content =>
    let line := content.takeWhile (· != newlineByte)
    let taken := content.take (line.length + 1)
    set { m with streams := { m.streams with source := .bytes (content.drop (line.length + 1)) } }
    return taken
  | .console =>
    let line := m.input.takeWhile (· != newlineByte)
    if line.length = m.input.length then throw .blocked
    else
      set { m with input := m.input.drop (line.length + 1) }
      return m.input.take (line.length + 1)

/-- Copies the input to the output.  From the console this has no end. -/
def copyInput : Run Unit := do
  let m ← get
  match m.streams.source with
  | .closed => pure ()
  | .bytes content =>
    set { m with streams := { m.streams with source := .bytes [] } }
    put content
  | .console =>
    set { m with input := [] }
    put m.input
    throw .blocked

/-- Does something and then restores a part of the machine, however it went. -/
def protect {α : Type} (restore : Machine → Machine) (body : Run α) : Run α := do
  let result ←
    tryCatch body fun stop => do
      modify restore
      throw stop
  modify restore
  return result

/-- Does something with other streams. -/
def withStreams {α : Type} (streams : Streams) (body : Run α) : Run α := do
  let before := (← get).streams
  modify fun m => { m with streams }
  protect (fun m => { m with streams := before }) body

end ConsoleHarness.Shell
