import ConsoleHarness.Config.Load

/-! # What a command line asks for

There is one thing to do, a run, and no argument at all asks for it as well.  Each of its options
has a value and comes at most once; the names of options may be written in either case.
-/

namespace ConsoleHarness

/-- What is wrong with a command line. -/
inductive UsageError where
  | unknownCommand (name : String)
  | unknownArgument (text : String)
  | missingValue (name : String)
  | wrongMirror (text : String)
  deriving DecidableEq, Repr

/-- The text of an error. -/
def UsageError.message : UsageError → String
  | .unknownCommand name => s!"Invalid subcommand '{name}' - use 'run'"
  | .unknownArgument text => s!"Received unknown argument: '{text}'"
  | .missingValue name => s!"Expected a value following option: '{name}'"
  | .wrongMirror text => s!"Expected one of the following cases: raw, plain, off, not '{text}'"

/-- What a command line asks for. -/
inductive Request where
  | run (overrides : Overrides)
  | help
  | version
  deriving DecidableEq, Repr

namespace Request

/-- The options of a run. -/
inductive RunOption where
  | config
  | artifact
  | kernel
  | mirror
  deriving DecidableEq, Repr

/-- The names of the options. -/
def optionNames : List (String × RunOption) :=
  [("--config", .config), ("--artifact", .artifact), ("--kernel", .kernel), ("--mirror", .mirror)]

/-- Splits a long option from a value that is joined to it. -/
def splitValue (arg : String) : String × Option String :=
  let chars := arg.toList
  let name := chars.takeWhile (· != '=')
  match arg.startsWith "--", chars.drop name.length with
  | true, _ :: value => (String.ofList name, some (String.ofList value))
  | _, _ => (arg, none)

/-- Whether an option was given already. -/
def RunOption.isSet (o : RunOption) (overrides : Overrides) : Bool :=
  match o with
  | .config => overrides.configPath.isSome
  | .artifact => overrides.artifactPath.isSome
  | .kernel => overrides.kernelImage.isSome
  | .mirror => overrides.mirror.isSome

/-- Sets an option. -/
def RunOption.set (o : RunOption) (overrides : Overrides) (value : String) :
    Except UsageError Overrides :=
  match o with
  | .config => .ok { overrides with configPath := some value }
  | .artifact => .ok { overrides with artifactPath := some value }
  | .kernel => .ok { overrides with kernelImage := some value }
  | .mirror =>
    match MirrorMode.ofText? value with
    | some mode => .ok { overrides with mirror := some mode }
    | none => .error (.wrongMirror value)

/-- Reads the options of a run; `pending` is an option whose value comes next. -/
def readOptions (overrides : Overrides) (pending : Option (String × RunOption)) :
    List String → Except UsageError Overrides
  | [] =>
    match pending with
    | some (name, _) => .error (.missingValue name)
    | none => .ok overrides
  | arg :: rest =>
    match pending with
    | some (_, option) =>
      match option.set overrides arg with
      | .error e => .error e
      | .ok overrides => readOptions overrides none rest
    | none =>
      let (name, value) := splitValue arg
      match optionNames.lookup (Text.lower name) with
      | none => .error (.unknownArgument arg)
      | some option =>
        if option.isSet overrides then .error (.unknownArgument arg)
        else
          match value with
          | none => readOptions overrides (some (name, option)) rest
          | some value =>
            match option.set overrides value with
            | .error e => .error e
            | .ok overrides => readOptions overrides none rest

/-- The request that is made wherever a certain argument stands. -/
def everywhere? (args : List String) : Option Request :=
  args.findSome? fun arg =>
    match Text.lower arg with
    | "--help" | "-h" => some .help
    | "--version" => some .version
    | _ => none

/-- The request of a command line. -/
def ofArgs (args : List String) : Except UsageError Request :=
  match everywhere? args with
  | some request => .ok request
  | none =>
    match args with
    | [] => .ok (.run {})
    | command :: rest =>
      if Text.lower command = "run" then (readOptions {} none rest).map .run
      else .error (.unknownCommand command)

end Request

end ConsoleHarness
