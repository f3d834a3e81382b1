import ConsoleHarness.Path
import ConsoleHarness.Report.Artifact
import ConsoleHarness.Report.Mirror
import ConsoleHarness.Report.Verdict
import ConsoleHarness.Session.Script

/-! # Configurations

A *configuration* says everything that a run needs.  It is made of *layers*, in which each field
may be missing: a file, the environment, the command line.
-/

namespace ConsoleHarness

/-- The program to run on the other side of the console. -/
structure Emulator where
  command : String
  args : List String
  cwd : Option String := none
  env : Option (List (String × String)) := none
  deriving DecidableEq, Repr

/-- Everything that a run needs. -/
structure Config where
  emulator : Emulator
  script : Script
  timeouts : Timeouts
  artifactPath : String
  mirror : MirrorMode
  expectations : List Expectation
  deriving DecidableEq, Repr

/-! ## Layers -/

/-- The part of a layer about the emulator. -/
structure EmulatorLayer where
  command : Option String := none
  args : Option (List String) := none
  kernelImage : Option String := none
  cwd : Option String := none
  deriving DecidableEq, Repr

/-- The part of a layer about durations. -/
structure TimeoutLayer where
  boot : Option Millis := none
  prompt : Option Millis := none
  settle : Option Millis := none
  exit : Option Millis := none
  killGrace : Option Millis := none
  drain : Option Millis := none
  deriving DecidableEq, Repr

/-- Settings from one source. -/
structure Layer where
  emulator : Option EmulatorLayer := none
  prompt : Option String := none
  timeouts : Option TimeoutLayer := none
  commands : Option (List String) := none
  shutdownCommand : Option String := none
  artifactPath : Option String := none
  mirror : Option MirrorMode := none
  expectations : Option (List Expectation) := none
  deriving DecidableEq, Repr

/-- The emulator settings, all missing if the part is. -/
def Layer.emulatorPart (layer : Layer) : EmulatorLayer := layer.emulator.getD {}

/-- The durations, all missing if the part is. -/
def Layer.timeoutPart (layer : Layer) : TimeoutLayer := layer.timeouts.getD {}

/-! ## Defaults -/

namespace Emulator

/-- The program that is run if no other is named. -/
def defaultCommand : String := "qemu-system-riscv64"

/-- The kernel image that is run if no other is named. -/
def defaultImage : String := "target/riscv64gc-unknown-none-elf/debug/kernel"

/-- The argument before the kernel image. -/
def imageFlag : String := "-kernel"

/-- The arguments that run a kernel image, if no others are given. -/
def argsFor (image : String) : List String :=
  ["-machine", "virt", "-m", "128M", "-nographic", "-bios", "default", imageFlag, image]

/-- The arguments with another kernel image: the one after the first flag is replaced, and appended
if there is none. -/
def withImage (image : String) : List String → List String
  | [] => [imageFlag, image]
  | arg :: rest =>
    if arg = imageFlag then imageFlag :: image :: rest.tail else arg :: withImage image rest

end Emulator

/-! ## From layers to a configuration -/

namespace Layer

/-- One layer above another: each field comes from the upper one if it is there, and from the lower
one otherwise.  Lists are taken whole. -/
def above (upper lower : Layer) : Layer where
  emulator :=
    let u := upper.emulatorPart
    let l := lower.emulatorPart
    some
      { command := u.command <|> l.command
        args := u.args <|> l.args
        kernelImage := u.kernelImage <|> l.kernelImage
        cwd := u.cwd <|> l.cwd }
  prompt := upper.prompt <|> lower.prompt
  timeouts :=
    let u := upper.timeoutPart
    let l := lower.timeoutPart
    some
      { boot := u.boot <|> l.boot
        prompt := u.prompt <|> l.prompt
        settle := u.settle <|> l.settle
        exit := u.exit <|> l.exit
        killGrace := u.killGrace <|> l.killGrace
        drain := u.drain <|> l.drain }
  commands := upper.commands <|> lower.commands
  shutdownCommand := upper.shutdownCommand <|> lower.shutdownCommand
  artifactPath := upper.artifactPath <|> lower.artifactPath
  mirror := upper.mirror <|> lower.mirror
  expectations := upper.expectations <|> lower.expectations

/-- The configuration that a layer amounts to; what is missing has a default, and paths are seen
from `cwd`. -/
def resolve (layer : Layer) (cwd : Path) : Config where
  emulator :=
    let e := layer.emulatorPart
    { command := e.command.getD Emulator.defaultCommand
      args := e.args.getD (Emulator.argsFor (e.kernelImage.getD Emulator.defaultImage))
      cwd := some (cwd.resolve (e.cwd.getD ".")).text }
  script :=
    let t := layer.timeoutPart
    { prompt := layer.prompt.getD "> "
      bootTimeout := t.boot.getD 10000
      promptTimeout := t.prompt.getD 5000
      settle := t.settle.getD 2000
      commands := layer.commands.getD ["hello"]
      shutdownCommand := layer.shutdownCommand.getD "shutdown" }
  timeouts :=
    let t := layer.timeoutPart
    { exit := t.exit.getD 5000
      killGrace := t.killGrace.getD 2000
      drain := t.drain.getD 1000 }
  artifactPath := (cwd.resolve (layer.artifactPath.getD Artifact.defaultName)).text
  mirror := layer.mirror.getD .raw
  expectations := layer.expectations.getD Expectation.defaults

end Layer

end ConsoleHarness
