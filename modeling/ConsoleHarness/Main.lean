import ConsoleHarness.Cli.Basic

/-! # The program

The thin layer around an invocation: it looks at the surroundings, lets the invocation take place,
shows what there is to show, and leaves the files that it made.  No file of variables is looked at,
and lines are not painted.
-/

namespace ConsoleHarness

/-- The variables that an invocation looks at. -/
def watchedVariables : List String :=
  [Environment.configVariable, Environment.commandVariable, Environment.imageVariable,
    Environment.artifactVariable, Environment.mirrorVariable]

/-- The variables that are set. -/
def readEnvironment : IO Environment := do
  let found ← watchedVariables.mapM fun name => do
    return (← IO.getEnv name).map (name, ·)
  return found.filterMap id

/-- The files with one more, if it can be read. -/
def loadFile (files : Files) (path : Path) : IO Files := do
  match ← (IO.FS.readFile path.text).toBaseIO with
  | .ok content =>
    return ((files.makeFolders path.parent).bind (·.write path content)).toOption.getD files
  | .error _ => return files

/-- The files that an invocation looks at. -/
def readFiles (cwd : Path) (env : Environment) (args : List String) : IO Files := do
  let start := (({} : Files).makeFolders cwd).toOption.getD {}
  match Order.ofArgs args with
  | .run overrides => loadFile start ({ cwd, env, overrides } : Sources).path
  | _ => return start

/-- Leaves a file that an invocation has made. -/
def saveFile (before : Files) (path : Path) (content : String) : IO Unit := do
  if (before.read path).toOption ≠ some content then
    IO.FS.createDirAll path.parent.text
    IO.FS.writeFile path.text content

end ConsoleHarness

open ConsoleHarness in
/-- Invokes the command line with the arguments of the process. -/
def main (args : List String) : IO UInt32 := do
  let cwd := Path.ofText (← IO.currentDir).toString
  let env ← readEnvironment
  let files ← readFiles cwd env args
  let world : World :=
    { files, cwd, env, added := [], read := Order.ofArgs, parse := Yaml.parse,
      strip := Text.Ansi.strip, painter := .plain }
  let done := world.invoke args
  (← IO.getStdout).putStr done.stdout
  (← IO.getStderr).putStr done.stderr
  for (path, content) in done.files.contents do
    saveFile files path content
  return done.exitCode.toUInt32
