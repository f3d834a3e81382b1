import ConsoleHarness.Config.Schema
import ConsoleHarness.Files
import ConsoleHarness.Text.Lowercase
import ConsoleHarness.Yaml.Document

/-! # Loading a configuration

A configuration is put together from a file, the environment and the command line, each over the
one before.  The file may be missing unless it is named.  If it has an error nothing is loaded;
otherwise what remains to be said is a list of warnings.
-/

namespace ConsoleHarness

/-- A setting without the blanks around it; one that is blank altogether is none. -/
def Text.setting? (text : Option String) : Option String :=
  (text.map Text.trim).filter (!·.isEmpty)

/-- The environment: variables with their values. -/
abbrev Environment := List (String × String)

namespace Environment

/-- The variable that names the configuration file. -/
def configVariable : String := "BOGO_HARNESS_CONFIG"

/-- The variable that names the program to run. -/
def commandVariable : String := "BOGO_QEMU_BIN"

/-- The variable that names the kernel image. -/
def imageVariable : String := "BOGO_KERNEL_IMAGE"

/-- The variable that names the artifact. -/
def artifactVariable : String := "BOGO_HARNESS_ARTIFACT"

/-- The variable that names the mirror mode. -/
def mirrorVariable : String := "BOGO_HARNESS_MIRROR"

/-- The setting of a variable. -/
def setting? (env : Environment) (name : String) : Option String :=
  Text.setting? (List.lookup name env)

/-- The mirror mode of the environment, and a warning if there is none of its name. -/
def mirror (env : Environment) : Option MirrorMode × List Issue :=
  match (env.setting? mirrorVariable).map Text.lower with
  | none => (none, [])
  | some name =>
    match MirrorMode.ofText? name with
    | some mode => (some mode, [])
    | none => (none, [⟨.warning, [mirrorVariable], .unknownMirrorMode name⟩])

/-- The layer of the environment. -/
def layer (env : Environment) : Layer where
  emulator := some
    { command := env.setting? commandVariable, kernelImage := env.setting? imageVariable }
  artifactPath := env.setting? artifactVariable
  mirror := env.mirror.1

/-- What is wrong with the environment. -/
def issues (env : Environment) : List Issue := env.mirror.2

end Environment

/-- What the command line says about the configuration. -/
structure Overrides where
  configPath : Option String := none
  artifactPath : Option String := none
  kernelImage : Option String := none
  mirror : Option MirrorMode := none
  deriving DecidableEq, Repr

/-- The layer of the command line. -/
def Overrides.layer (o : Overrides) : Layer where
  emulator := some { kernelImage := o.kernelImage }
  artifactPath := o.artifactPath
  mirror := o.mirror

/-- Where a configuration comes from. -/
structure Sources where
  files : Files := {}
  cwd : Path := {}
  env : Environment := []
  overrides : Overrides := {}
  /-- Unknown keys are errors. -/
  strict : Bool := false
  /-- How the text of a document is read. -/
  parse : String → Except Yaml.Fault Value := Yaml.parse
  deriving Inhabited

namespace Sources

/-- The name of the configuration file if no other is given. -/
def defaultFile : String := "harness.yaml"

/-- The name of the configuration file that is asked for. -/
def named? (s : Sources) : Option String :=
  Text.setting? s.overrides.configPath <|> s.env.setting? Environment.configVariable

/-- The configuration file. -/
def path (s : Sources) : Path := s.cwd.resolve (s.named?.getD defaultFile)

/-- A refusal of the configuration file. -/
def refuse (s : Sources) (issues : List Issue) : ConfigError := ⟨s.path.text, issues⟩

/-- The refusal for one problem with the whole file. -/
def refuseWhole (s : Sources) (problem : Problem) : ConfigError :=
  s.refuse [⟨.error, [], problem⟩]

/-- The value that the configuration file holds; `none` if it is missing and need not be there. -/
def document (s : Sources) : Except ConfigError (Option Value) :=
  match s.files.read s.path with
  | .error failure =>
    if failure.problem = .missing && s.named?.isNone then .ok none
    else .error (s.refuseWhole (.unreadable failure))
  | .ok text =>
    match s.parse text with
    | .error fault => .error (s.refuseWhole (.malformed fault.text))
    | .ok value => .ok (some value)

/-- The layer of a document, with its warnings. -/
def fileLayer (s : Sources) (value : Value) : Except ConfigError (Layer × List Issue) :=
  let (layer, issues) := Schema.validate value s.strict
  let errors := issues.filter Issue.isError
  if errors.isEmpty then .ok (layer, issues.filter (!·.isError)) else .error (s.refuse errors)

/-- The layer of the configuration file, with its warnings. -/
def readFile (s : Sources) : Except ConfigError (Layer × List Issue) :=
  match s.document with
  | .error refusal => .error refusal
  | .ok none => .ok ({}, [])
  | .ok (some value) => s.fileLayer value

/-- The kernel image that the command line or the environment asks for. -/
def image? (s : Sources) : Option String :=
  s.overrides.kernelImage <|> s.env.layer.emulatorPart.kernelImage

/-- All layers as one.  Arguments from the file follow a kernel image from elsewhere. -/
def merge (s : Sources) (file : Layer) : Layer :=
  let merged := s.overrides.layer.above (s.env.layer.above file)
  match merged.emulatorPart.args, s.image? with
  | some args, some image =>
    if image.isEmpty then merged
    else
      { merged with
        emulator := some { merged.emulatorPart with args := some (Emulator.withImage image args) } }
  | _, _ => merged

end Sources

/-- A configuration, and what is to be said about it. -/
structure Loaded where
  config : Config
  warnings : List Issue
  deriving DecidableEq, Repr

/-- The lines of the warnings. -/
def Loaded.warningLines (l : Loaded) : List String := l.warnings.map Issue.line

/-- Loads a configuration. -/
def Sources.load (s : Sources) : Except ConfigError Loaded :=
  match s.readFile with
  | .error refusal => .error refusal
  | .ok (file, warnings) => .ok ⟨(s.merge file).resolve s.cwd, warnings ++ s.env.issues⟩

/-- Someone who is told lines, and keeps a state of their own. -/
abbrev Listener (σ : Type) := String → StateM σ Unit

/-- Tells a listener some lines; there may be none. -/
def Listener.tellAll {σ : Type} (listener : Option (Listener σ)) (lines : List String) :
    StateM σ Unit := do
  for line in lines do
    if let some tell := listener then
      tell line

/-- Loads a configuration, and tells a listener of the warnings on the way. -/
def Sources.loadTelling {σ : Type} (s : Sources) (listener : Option (Listener σ)) :
    ExceptT ConfigError (StateM σ) Config := do
  let (file, warnings) ← s.readFile
  Listener.tellAll listener ((warnings ++ s.env.issues).map Issue.line)
  return (s.merge file).resolve s.cwd

end ConsoleHarness
