import ConsoleHarness.Shell.Parser
import ConsoleHarness.Shell.Utilities

/-! # Running commands

Commands are run on a machine.  Every step deeper into a command and every round of a loop uses up
fuel, so that a script that never ends is stopped.
-/

namespace ConsoleHarness.Shell

/-! ## Fields -/

/-- The characters between which a text is split. -/
def separators (m : Machine) : List Char := ((m.lookup? "IFS").getD " \t\n").toList

/-- The fields of a text, and whether separators stand at its start and its end. -/
def fieldsOf (separators : List Char) (text : List Char) : List String :=
  ((text.foldr (fun c (words : List (List Char)) =>
    if separators.contains c then [] :: words
    else
      match words with
      | [] => [[c]]
      | word :: rest => (c :: word) :: rest) [[]]).filter (!·.isEmpty)).map String.ofList

/-- Fields under construction: those that are complete, newest first, and the one being built. -/
structure Fields where
  complete : List String := []
  current : Option String := none

namespace Fields

/-- Adds a text to the field being built. -/
def add (f : Fields) (text : String) : Fields :=
  { f with current := some (f.current.getD "" ++ text) }

/-- Ends the field being built. -/
def cut (f : Fields) : Fields := { complete := f.current.toList ++ f.complete, current := none }

/-- Adds fields, the first and the last of which may grow together with their neighbours. -/
def addAll (f : Fields) : List String → Fields
  | [] => f
  | first :: rest => rest.foldl (fun f field => f.cut.add field) (f.add first)

/-- Adds a text that is split. -/
def addSplit (f : Fields) (separators : List Char) (text : String) : Fields :=
  let chars := text.toList
  let f := if chars.head?.any separators.contains then f.cut else f
  let f := f.addAll (fieldsOf separators chars)
  if chars.getLast?.any separators.contains then f.cut else f

/-- All fields. -/
def all (f : Fields) : List String := f.cut.complete.reverse

end Fields

/-- Whether a piece is quoted. -/
def Piece.isQuoted : Piece → Bool
  | .bare _ => false
  | .quoted _ => true
  | .parameter _ _ isQuoted | .command _ isQuoted => isQuoted
  | .length _ | .arithmetic _ => true

/-! ## Lines that are read -/

/-- The characters of a line without its newline, each with whether it was escaped. -/
def unescapedLine (isRaw : Bool) : List Char → List (Char × Bool)
  | [] => []
  | '\\' :: c :: rest =>
    if isRaw then ('\\', false) :: unescapedLine isRaw (c :: rest)
    else (c, true) :: unescapedLine isRaw rest
  | c :: rest => (c, false) :: unescapedLine isRaw rest

/-- The text of characters. -/
def plainOf (chars : List (Char × Bool)) : String := String.ofList (chars.map (·.1))

/-- Gives the fields of a line to names; the last name takes all that is left. -/
def assignFields (separators : List Char) (m : Machine) (chars : List (Char × Bool)) :
    List String → Machine
  | [] => m
  | name :: names =>
    let isSeparator (c : Char × Bool) : Bool := !c.2 && separators.contains c.1
    let chars := chars.dropWhile isSeparator
    if names.isEmpty then
      m.setVariable name (plainOf (chars.reverse.dropWhile isSeparator).reverse)
    else
      let field := chars.takeWhile (!isSeparator ·)
      assignFields separators (m.setVariable name (plainOf field)) (chars.drop field.length) names

/-- Reads a line into variables. -/
def readLine (args : List String) : Run Nat := do
  let isRaw := args.head? = some "-r"
  let names := args.filter (!·.startsWith "-")
  let line ← takeLine
  let chars := Text.decode (line.filter (· != newlineByte))
  modify fun m => assignFields (separators m) m (unescapedLine isRaw chars) names
  return if line.getLast? = some newlineByte then 0 else 1

/-! ## Commands of the language -/

/-- Handles signals: passes them over, leaves them to a script, or takes them as usual again. -/
def handleSignals (args : List String) : Run Nat := do
  match args with
  | [] => return 0
  | action :: signals =>
    let names := signals.filterMap signalName?
    modify fun m =>
      let m :=
        { m with
          ignored := m.ignored.filter (!names.contains ·)
          handlers := m.handlers.filter (!names.contains ·.1) }
      if action = "-" then m
      else if action.isEmpty then { m with ignored := names ++ m.ignored }
      else { m with handlers := names.map (·, action) ++ m.handlers }
    return if names.length = signals.length then 0 else 1

/-- Goes to another folder. -/
def changeFolder (args : List String) : Run Nat := do
  let m ← get
  let name := args.head?.getD ((m.lookup? "HOME").getD "/")
  if leadsTo m name (!isFile ·) then
    set { m with cwd := m.cwd.resolve name }
    return 0
  else
    complain s!"{m.name}: 1: cd: can't cd to {name}"
    return 2

/-- Sets variables from arguments of the form `name=value`. -/
def declare (args : List String) : Run Nat := do
  args.forM fun arg =>
    match Lexer.upTo '=' arg.toList with
    | some (name, value) =>
      modify fun m => m.setVariable (String.ofList name) (String.ofList value)
    | none => pure ()
  return 0

/-- The number that an argument spells, or the status so far. -/
def statusArg (args : List String) : Run Nat := do
  return (args.head?.bind String.toNat?).getD (← get).status

/-- The commands of the language that need no other commands. -/
def builtins : List (String × (List String → Run Nat)) :=
  [(":", fun _ => pure 0), ("echo", echoCommand), ("read", readLine), ("trap", handleSignals),
    ("cd", changeFolder), ("export", declare), ("local", declare), ("readonly", declare),
    ("wait", fun _ => do
      wait (← get).remaining
      return 0),
    ("umask", fun _ => pure 0),
    ("exit", fun args => do throw (endWith (← statusArg args))),
    ("return", fun args => do
      setStatus (← statusArg args)
      throw .returned),
    ("break", fun _ => throw .broke),
    ("continue", fun _ => throw .continued),
    ("shift", fun args => do
      modify fun m => { m with args := m.args.drop ((args.head?.bind String.toNat?).getD 1) }
      return 0),
    ("set", fun args => do
      if args.head? = some "--" then modify fun m => { m with args := args.tail }
      return 0),
    ("unset", fun args => do
      modify fun m => { m with vars := m.vars.filter (!args.contains ·.1) }
      return 0),
    ("[", fun args => do
      if args.getLast? = some "]" then test args.dropLast else return 2)]

/-- The signal and the targets that arguments name. -/
def signalArgs (args : List String) : Option String × List String :=
  match args with
  | "-s" :: name :: rest => (signalName? name, rest)
  | arg :: rest =>
    match arg.toList with
    | '-' :: c :: name => (signalName? (String.ofList (c :: name)), rest)
    | _ => (some "TERM", args)
  | [] => (some "TERM", [])

/-! ## Streams -/

/-- Streams with another one under a descriptor. -/
def Streams.direct (s : Streams) (descriptor : Nat) (sink : Sink) : Streams :=
  match descriptor with
  | 1 => { s with output := sink }
  | 2 => { s with errors := sink }
  | _ => s

/-- The path of the file that takes everything and holds nothing. -/
def nullPath : String := "/dev/null"

/-- Streams after a redirection to a file or another stream; `none` if it fails. -/
def redirected (streams : Streams) (descriptor : Nat) (kind : RedirectKind) (target : String) :
    Run (Option Streams) := do
  let m ← get
  let path := m.cwd.resolve target
  match kind with
  | .duplicate =>
    match target with
    | "-" =>
      return some (if descriptor = 0 then { streams with source := .closed }
        else streams.direct descriptor .nowhere)
    | "1" => return some (streams.direct descriptor streams.output)
    | "2" => return some (streams.direct descriptor streams.errors)
    | _ => return some streams
  | .read =>
    if target = nullPath then return some { streams with source := .bytes [] }
    else
      match m.files.read path with
      | .ok content => return some { streams with source := .bytes (Text.encode content) }
      | .error _ =>
        complain s!"{m.name}: 1: cannot open {target}: No such file"
        return none
  | .write | .append =>
    if target = nullPath then return some (streams.direct descriptor .nowhere)
    else
      let content := if kind = .append then (m.files.read path).toOption.getD "" else ""
      match m.files.write path content with
      | .ok files =>
        set { m with files }
        return some (streams.direct descriptor (.file path))
      | .error _ =>
        complain s!"{m.name}: 1: cannot create {target}: Directory nonexistent"
        return none

/-! ## Apart -/

/-- Runs something whose changes to the machine are not kept, and which may end without ending the
program. -/
def isolated (body : Run Unit) : Run Unit := do
  let before ← get
  let exit ←
    tryCatch (do
      body
      return none) fun stop =>
      match stop with
      | .ended exit => return some exit
      | stop => throw stop
  modify fun m =>
    { before with
      files := m.files, input := m.input, kept := m.kept, steps := m.steps
      streams := { before.streams with source := m.streams.source }
      status := (exit.map statusOf).getD m.status }

/-- The writes among some steps, oldest first, each with its moment, and how long the steps take. -/
def timeline (elapsed : Millis) : List Step → List (Millis × List UInt8) × Millis
  | [] => ([], elapsed)
  | .write bytes :: rest =>
    let (writes, last) := timeline elapsed rest
    ((elapsed, bytes) :: writes, last)
  | .wait span :: rest => timeline (elapsed + span) rest
  | .beside others span :: rest =>
    let (writes, last) := timeline elapsed rest
    (others.map (fun (moment, bytes) => (elapsed + moment, bytes)) ++ writes,
      max last (elapsed + span))

/-- Runs something beside what comes next.  It has nothing to read. -/
def beside (body : Run Unit) : Run Unit := do
  let before ← get
  set { before with steps := [], streams := { before.streams with source := .bytes [] } }
  tryCatch (isolated body) fun stop =>
    match stop with
    | .exhausted => pure ()
    | stop => throw stop
  modify fun m =>
    let (writes, span) := timeline 0 m.steps.reverse
    { before with
      files := m.files, kept := m.kept, status := 0, steps := .beside writes span :: before.steps }

/-- Runs something and gives what it wrote to the output. -/
def keeping (body : Run Unit) : Run (List UInt8) := do
  let before ← get
  modify fun m => { m with kept := [] }
  withStreams { before.streams with output := .kept } body
  let kept := (← get).kept
  modify fun m => { m with kept := before.kept }
  return kept

/-- Runs the body of a loop; `false` if it left the loop. -/
def round (body : Run Unit) : Run Bool :=
  tryCatch (do
    body
    return true) fun stop =>
    match stop with
    | .broke => return false
    | .continued => return true
    | stop => throw stop

mutual

/-- Runs a command. -/
def eval : Nat → Command → Run Unit
  | 0, _ => throw .exhausted
  | fuel + 1, command =>
    match command with
    | .nothing => pure ()
    | .simple assignments words redirects => simple fuel assignments words redirects
    | .sequence first second => do
      eval fuel first
      eval fuel second
    | .both first second => do
      eval fuel first
      if (← get).status = 0 then eval fuel second
    | .either first second => do
      eval fuel first
      if (← get).status ≠ 0 then eval fuel second
    | .negated command => do
      eval fuel command
      modify fun m => { m with status := if m.status = 0 then 1 else 0 }
    | .beside command => beside (eval fuel command)
    | .pipe first second => do
      let content ← keeping (isolated (eval fuel first))
      let streams := (← get).streams
      withStreams { streams with source := .bytes content } (isolated (eval fuel second))
    | .choice test yes no => do
      eval fuel test
      if (← get).status = 0 then eval fuel yes
      else
        setStatus 0
        eval fuel no
    | .loop isUntil test body => do
      eval fuel test
      if ((← get).status = 0) = !isUntil then
        if ← round (eval fuel body) then eval fuel (.loop isUntil test body) else setStatus 0
      else setStatus 0
    | .each name words body => do
      let fields ←
        match words with
        | some words => fieldsOfWords fuel words
        | none => pure (← get).args
      discard <| fields.foldlM (fun goesOn field => do
        if goesOn then
          modify (·.setVariable name field)
          round (eval fuel body)
        else return false) true
    | .select word branches => do
      let text ← expandText fuel word
      setStatus 0
      let chosen ← branches.foldlM (fun (chosen : Option Command) (patterns, body) => do
        if chosen.isSome then return chosen
        else
          let patterns ← patterns.mapM (patternOf fuel)
          return if patterns.any (·.covers text.toList) then some body else none) none
      match chosen with
      | some body => eval fuel body
      | none => pure ()
    | .group body redirects => redirecting fuel redirects (eval fuel body)
    | .apart body redirects => redirecting fuel redirects (isolated (eval fuel body))
    | .function name body => do
      modify fun m => { m with functions := (name, body) :: m.functions }
      setStatus 0

/-- Runs a simple command. -/
def simple : Nat → List (String × Word) → List Word → List Redirect → Run Unit
  | 0, _, _, _ => throw .exhausted
  | fuel + 1, assignments, words, redirects => do
    let fields ← fieldsOfWords fuel words
    let before := (← get).vars
    assignments.forM fun (name, word) => do
      let value ← expandText fuel word
      modify (·.setVariable name value)
    match fields with
    | [] => redirecting fuel redirects (if words.isEmpty then setStatus 0 else pure ())
    | "exec" :: args => do
      match ← streamsWith fuel redirects with
      | none => throw (endWith 2)
      | some streams => modify fun m => { m with streams }
      if args.isEmpty then setStatus 0
      else
        modify fun m => { m with handlers := [] }
        invoke fuel args
        throw (endWith (← get).status)
    | name :: args => do
      redirecting fuel redirects (invoke fuel (name :: args))
      if !assignments.isEmpty then
        let names := assignments.map (·.1)
        modify fun m =>
          { m with
            vars := before.filter (names.contains ·.1) ++
              m.vars.filter (!names.contains ·.1) }

/-- Runs something with redirections. -/
def redirecting : Nat → List Redirect → Run Unit → Run Unit
  | 0, _, _ => throw .exhausted
  | fuel + 1, redirects, body => do
    if redirects.isEmpty then body
    else
      match ← streamsWith fuel redirects with
      | none => setStatus 2
      | some streams => withStreams streams body

/-- The streams after redirections; `none` if one of them fails. -/
def streamsWith : Nat → List Redirect → Run (Option Streams)
  | 0, _ => throw .exhausted
  | fuel + 1, redirects => do
    redirects.foldlM (fun (streams : Option Streams) redirect => do
      match streams with
      | none => return none
      | some streams =>
        redirected streams redirect.descriptor redirect.kind (← expandText fuel redirect.target))
      (some (← get).streams)

/-- Runs a command by its name. -/
def invoke : Nat → List String → Run Unit
  | 0, _ => throw .exhausted
  | _ + 1, [] => pure ()
  | fuel + 1, name :: args => do
    let m ← get
    let program := programName name
    match m.functions.lookup name, builtins.lookup name, programs.lookup program with
    | some body, _, _ => do
      modify fun m => { m with args }
      protect (fun now => { now with args := m.args }) (tryCatch (eval fuel body) fun stop =>
        match stop with
        | .returned => pure ()
        | stop => throw stop)
    | none, some command, _ => do setStatus (← command args)
    | none, none, some command => do setStatus (← command args)
    | none, none, none =>
      if name = "eval" then script fuel (String.intercalate " " args)
      else if name = "command" then invoke fuel args
      else if name = "kill" then sendSignal fuel args
      else if shellNames.contains program then isolated (shell fuel program args)
      else
        complain s!"{m.name}: 1: {name}: not found"
        setStatus 127

/-- Sends a signal to the program itself. -/
def sendSignal : Nat → List String → Run Unit
  | 0, _ => throw .exhausted
  | fuel + 1, args => do
    let (signal, targets) := signalArgs args
    let m ← get
    match signal with
    | none =>
      complain s!"{m.name}: 1: kill: Illegal option"
      setStatus 2
    | some signal =>
      if !targets.contains (toString m.pid) then
        complain s!"{m.name}: 1: kill: No such process"
        setStatus 1
      else
        setStatus 0
        take fuel signal

/-- Takes a signal. -/
def take : Nat → String → Run Unit
  | 0, _ => throw .exhausted
  | fuel + 1, signal => do
    let m ← get
    if signal = "EXIT" then pure ()
    else if signal = "KILL" then throw (endBy signal)
    else if m.ignored.contains signal then pure ()
    else
      match m.handlers.lookup signal with
      | some text => do
        script fuel text
        setStatus m.status
      | none => if harmlessSignals.contains signal then pure () else throw (endBy signal)

/-- Runs a script. -/
def script : Nat → String → Run Unit
  | 0, _ => throw .exhausted
  | fuel + 1, text => do
    match parse? text with
    | some command => eval fuel command
    | none =>
      complain s!"{(← get).name}: 1: Syntax error"
      throw (endWith 2)

/-- Runs scripts from the input, line by line. -/
def scriptLines : Nat → String → Run Unit
  | 0, _ => throw .exhausted
  | fuel + 1, before => do
    let line ← takeLine
    if line.isEmpty then pure ()
    else
      let text := before ++ String.ofList (Text.decode line)
      match parse? text with
      | some command => do
        eval fuel command
        scriptLines fuel ""
      | none => scriptLines fuel text

/-- Runs the program that runs scripts. -/
def shell : Nat → String → List String → Run Unit
  | 0, _, _ => throw .exhausted
  | fuel + 1, name, args => do
    modify fun m => { m with name, args := [], functions := [], handlers := [] }
    let body : Run Unit :=
      match args with
      | [] | ["-s"] => scriptLines fuel ""
      | "-c" :: text :: rest => do
        modify fun m => { m with name := rest.head?.getD name, args := rest.tail }
        script fuel text
      | path :: rest => do
        let m ← get
        match m.files.read (m.cwd.resolve path) with
        | .ok text =>
          set { m with name := path, args := rest }
          script fuel text
        | .error _ =>
          complain s!"{name}: 0: cannot open {path}: No such file"
          throw (endWith 2)
    let exit ←
      tryCatch (do
        body
        return none) fun stop =>
        match stop with
        | .ended exit => return some exit
        | .broke | .continued | .returned => return none
        | stop => throw stop
    match exit, (← get).handlers.lookup "EXIT" with
    | some exit, none => throw (.ended exit)
    | some exit, some text =>
      if exit.signal.isSome then throw (.ended exit)
      else
        modify fun m =>
          { m with status := statusOf exit, handlers := m.handlers.filter (·.1 ≠ "EXIT") }
        script fuel text
        throw (.ended exit)
    | none, some text => do
      let status := (← get).status
      modify fun m => { m with handlers := m.handlers.filter (·.1 ≠ "EXIT") }
      script fuel text
      setStatus status
    | none, none => pure ()

/-- The value of a piece. -/
def pieceText : Nat → Piece → Run String
  | 0, _ => throw .exhausted
  | fuel + 1, piece => do
    match piece with
    | .bare text | .quoted text => return text
    | .parameter name fallback _ =>
      let value := (← get).parameter? name
      return match fallback with
        | some text => if value.getD "" = "" then text else value.getD ""
        | none => value.getD ""
    | .length name => return toString (((← get).parameter? name).getD "").length
    | .command text _ => do
      let bytes ← keeping (isolated (script fuel text))
      let kept := (bytes.reverse.dropWhile (· == newlineByte)).reverse
      return String.ofList (Text.decode kept)
    | .arithmetic text => do
      let m ← get
      let value (name : String) : Int := ((m.parameter? name).bind String.toInt?).getD 0
      match Arithmetic.evaluate value text with
      | some n => return toString n
      | none =>
        complain s!"{m.name}: 1: arithmetic expression: expecting primary: \"{text}\""
        throw (endWith 2)

/-- The text of a word that is not split. -/
def expandText : Nat → Word → Run String
  | 0, _ => throw .exhausted
  | fuel + 1, word => do return String.join (← word.mapM (pieceText fuel))

/-- The pattern of a word. -/
def patternOf : Nat → Word → Run Pattern
  | 0, _ => throw .exhausted
  | fuel + 1, word => do
    let parts ← word.mapM fun piece => do
      let text ← pieceText fuel piece
      return text.toList.map (·, !piece.isQuoted)
    return parts.flatten

/-- The fields of words. -/
def fieldsOfWords : Nat → List Word → Run (List String)
  | 0, _ => throw .exhausted
  | fuel + 1, words => do
    let fields ← words.mapM fun word => do
      let m ← get
      let fields ← word.foldlM (fun (fields : Fields) piece => do
        match piece with
        | .bare text => return fields.add text
        | .parameter "@" _ true => return fields.addAll m.args
        | piece =>
          let text ← pieceText fuel piece
          return if piece.isQuoted then fields.add text
            else fields.addSplit (separators m) text) {}
      return fields.all
    return fields.flatten

end

end ConsoleHarness.Shell
