import ConsoleHarness.Files

/-! # The artifact

The transcript of a run is kept as a file, which replaces that of the run before.
-/

namespace ConsoleHarness.Artifact

/-- The file name of an artifact that was given none. -/
def defaultName : String := "test_output.txt"

/-- Writes a transcript to the file that a text names, seen from `cwd`; missing folders are made.
The path written to, or the reason why it could not be; the folders stay in either case. -/
def persist (files : Files) (cwd : Path) (artifact transcript : String) :
    Files × Except FileError Path :=
  let path := cwd.resolve artifact
  match files.makeFolders path.parent with
  | .error failure => (files, .error failure)
  | .ok files =>
    match files.write path transcript with
    | .error failure => (files, .error failure)
    | .ok files => (files, .ok path)

end ConsoleHarness.Artifact
