import ConsoleHarness.Shell.Arithmetic
import ConsoleHarness.Shell.Format
import ConsoleHarness.Shell.Machine

/-! # Small programs

Programs that need nothing of the command language.  Each one takes its arguments and gives its
status.
-/

namespace ConsoleHarness.Shell

/-! ## Signals -/

/-- The numbers of signals. -/
def signalNumbers : List (Nat × String) :=
  [(0, "EXIT"), (1, "HUP"), (2, "INT"), (3, "QUIT"), (4, "ILL"), (6, "ABRT"), (8, "FPE"),
    (9, "KILL"), (10, "USR1"), (11, "SEGV"), (12, "USR2"), (13, "PIPE"), (14, "ALRM"),
    (15, "TERM"), (17, "CHLD"), (18, "CONT"), (19, "STOP"), (20, "TSTP"), (21, "TTIN"),
    (22, "TTOU"), (23, "URG"), (28, "WINCH")]

/-- The signals that a program takes no notice of by itself. -/
def harmlessSignals : List String := ["CHLD", "CONT", "URG", "WINCH"]

/-- The name of a signal that is given by name or by number. -/
def signalName? (text : String) : Option String :=
  match text.toNat? with
  | some n => signalNumbers.lookup n
  | none =>
    let name :=
      match text.toList with
      | 'S' :: 'I' :: 'G' :: rest => String.ofList rest
      | _ => text
    (signalNumbers.find? (·.2 = name)).map (·.2)

/-- The status that stands for an exit. -/
def statusOf (exit : Exit) : Nat :=
  match exit.code, exit.signal with
  | some code, _ => (code % 256).toNat
  | none, some name =>
    let number := (signalNumbers.find? fun (_, other) => "SIG" ++ other = name).map (·.1)
    128 + number.getD 0
  | none, none => 0

/-- The end of a program with a status. -/
def endWith (status : Nat) : Stop := .ended { code := some ((status % 256 : Nat) : Int) }

/-- The end of a program by a signal. -/
def endBy (name : String) : Stop := .ended { signal := some ("SIG" ++ name) }

/-! ## Texts -/

/-- Prints words. -/
def printWords (words : List String) (newline : Bool) : Run Nat := do
  putText (String.intercalate " " words ++ if newline then "\n" else "")
  return 0

/-- Prints words in which escape sequences stand for other bytes. -/
def printEscaped (words : List String) (newline : Bool) : Run Nat := do
  let (bytes, stops) := Format.unescaped (String.intercalate " " words)
  put (bytes ++ if newline && !stops then [newlineByte] else [])
  return 0

/-- Whether an argument is an option of the program that prints words. -/
def isPrintOption (arg : String) : Bool :=
  match arg.toList with
  | '-' :: c :: rest => (c :: rest).all fun c => c == 'n' || c == 'e' || c == 'E'
  | _ => false

/-- Prints its arguments; options say whether escape sequences count and a newline follows. -/
def echoProgram (args : List String) : Run Nat :=
  let options := args.takeWhile isPrintOption
  let words := args.drop options.length
  let newline := !options.any (·.toList.contains 'n')
  if options.any (·.toList.contains 'e') then printEscaped words newline
  else printWords words newline

/-- Prints its arguments, with escape sequences. -/
def echoCommand (args : List String) : Run Nat :=
  match args with
  | "-n" :: words => printEscaped words false
  | words => printEscaped words true

/-- Fills in a format. -/
def printFormat (args : List String) : Run Nat := do
  match (if args.head? = some "--" then args.tail else args) with
  | [] => return 2
  | format :: args =>
    put (Format.printed format args)
    return 0

/-! ## Files and folders -/

/-- The text of a problem with a file. -/
def problemText : FileProblem → String
  | .missing => "No such file or directory"
  | .notFolder => "Not a directory"
  | .isFolder => "Is a directory"
  | .present => "File exists"

/-- Copies files to the output; without arguments the input. -/
def concatenate (args : List String) : Run Nat := do
  if args.isEmpty then
    copyInput
    return 0
  else
    args.foldlM (fun status name => do
      if name = "-" then
        copyInput
        return status
      else
        let m ← get
        match m.files.read (m.cwd.resolve name) with
        | .ok content =>
          putText content
          return status
        | .error failure =>
          complain s!"cat: {name}: {problemText failure.problem}"
          return 1) 0

/-- Lists the names in a folder. -/
def listNames (args : List String) : Run Nat := do
  let m ← get
  let name := args.head?.getD "."
  match m.files.tree.find (m.cwd.resolve name).segments with
  | .ok (.folder entries) =>
    let names := ((entries.map (·.1)).filter (!·.startsWith ".")).mergeSort (· ≤ ·)
    putText (String.join (names.map (· ++ "\n")))
    return 0
  | .ok (.file _) => printWords [name] true
  | .error problem =>
    complain s!"ls: cannot access '{name}': {problemText problem}"
    return 2

/-- Whether a path leads to a node of some sort. -/
def leadsTo (m : Machine) (name : String) (isRight : Node → Bool) : Bool :=
  match m.files.tree.find (m.cwd.resolve name).segments with
  | .ok node => isRight node
  | .error _ => false

/-- Whether a node is a file. -/
def isFile : Node → Bool
  | .file _ => true
  | .folder _ => false

/-- Whether a condition holds; `none` if it is not well formed. -/
def condition (m : Machine) : List String → Option Bool
  | [] => some false
  | "!" :: rest => (condition m rest).map not
  | [text] => some !text.isEmpty
  | [operator, text] =>
    match operator with
    | "-n" => some !text.isEmpty
    | "-z" => some text.isEmpty
    | "-e" => some (leadsTo m text fun _ => true)
    | "-f" => some (leadsTo m text isFile)
    | "-d" => some (leadsTo m text (!isFile ·))
    | "-t" => some false
    | _ => none
  | [a, operator, b] => compare operator a b
  | _ => none

/-- Tests a condition. -/
def test (args : List String) : Run Nat := do
  match condition (← get) args with
  | some holds => return if holds then 0 else 1
  | none => return 2

/-! ## Time -/

/-- The units of durations, in milliseconds. -/
def timeUnits : List (Char × Nat) := [('s', 1000), ('m', 60000), ('h', 3600000), ('d', 86400000)]

/-- The span that a text spells: seconds, unless a unit follows. -/
def span? (text : String) : Option Millis :=
  let chars := text.toList
  let (chars, unit) :=
    match chars.getLast?.bind (timeUnits.lookup ·) with
    | some unit => (chars.dropLast, unit)
    | none => (chars, 1000)
  let whole := chars.takeWhile Char.isDigit
  let places :=
    match chars.drop whole.length with
    | '.' :: rest => some rest
    | [] => some []
    | _ => none
  places.bind fun places =>
    if places.all Char.isDigit && !(whole ++ places).isEmpty then
      ((String.ofList (whole ++ places)).toNat?).map fun n =>
        (n * unit : Millis) / (Nat.pow 10 places.length : Millis)
    else none

/-- Waits. -/
def sleepFor (args : List String) : Run Nat := do
  match args.mapM span? with
  | some [] =>
    complain "sleep: missing operand\nTry 'sleep --help' for more information."
    return 1
  | some spans =>
    wait (spans.foldr (· + ·) 0)
    return 0
  | none =>
    let wrong := (args.find? fun arg => (span? arg).isNone).getD ""
    complain s!"sleep: invalid time interval ‘{wrong}’\nTry 'sleep --help' for more information."
    return 1

/-! ## All of them -/

/-- Counts. -/
def countTo (args : List String) : Run Nat := do
  match args.mapM String.toInt? with
  | some [last] =>
    putText (String.join ((List.range last.toNat).map fun i => toString (i + 1) ++ "\n"))
    return 0
  | some [first, last] =>
    putText (String.join ((List.range (last + 1 - first).toNat).map fun (i : Nat) =>
      toString (first + (i : Int)) ++ "\n"))
    return 0
  | _ => return 1

/-- Prints a variable. -/
def printVariable (args : List String) : Run Nat := do
  match args.head?.bind (← get).lookup? with
  | some value => printWords [value] true
  | none => return 1

/-- The programs that are there, by name. -/
def programs : List (String × (List String → Run Nat)) :=
  [("cat", concatenate), ("echo", echoProgram), ("printf", printFormat), ("sleep", sleepFor),
    ("true", fun _ => pure 0), ("false", fun _ => pure 1), ("ls", listNames),
    ("seq", countTo), ("printenv", printVariable), ("test", test),
    ("pwd", fun _ => do printWords [(← get).cwd.text] true)]

/-- The folders that programs are looked for in. -/
def programFolders : List String := ["/bin/", "/usr/bin/"]

/-- The name of the program that a command names, by its name or its path. -/
def programName (command : String) : String :=
  match programFolders.find? (command.startsWith ·) with
  | some folder => String.ofList (command.toList.drop folder.length)
  | none => command

/-- The name of the program that runs scripts. -/
def shellNames : List String := ["sh", "dash"]

end ConsoleHarness.Shell
