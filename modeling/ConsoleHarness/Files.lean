import ConsoleHarness.Path

/-! # Files

A file system is a tree of folders and text files.  Operations go from the root along a path; each
failure says what was tried and why it could not be done.

What stands in the way is all that can fail an operation.  There are no permissions, no limits on
names or space, no names that a system would refuse, and no links, devices or pipes.
-/

namespace ConsoleHarness

/-- A file with its content, or a folder with its entries. -/
inductive Node where
  | file (content : String)
  | folder (entries : List (String × Node))
  deriving Inhabited

/-- Why an operation on a path is impossible. -/
inductive FileProblem where
  | missing
  | notFolder
  | isFolder
  | present
  deriving DecidableEq, Repr

/-- The text of a problem. -/
def FileProblem.text : FileProblem → String
  | .missing => "ENOENT: no such file or directory"
  | .notFolder => "ENOTDIR: not a directory"
  | .isFolder => "EISDIR: illegal operation on a directory"
  | .present => "EEXIST: file already exists"

/-- What was tried. -/
inductive FileAttempt where
  | opening (path : Path)
  | reading
  | makingFolder (path : Path)
  deriving DecidableEq, Repr

/-- The text of an attempt. -/
def FileAttempt.text : FileAttempt → String
  | .opening path => s!"open '{path.text}'"
  | .reading => "read"
  | .makingFolder path => s!"mkdir '{path.text}'"

/-- A failed operation. -/
structure FileError where
  problem : FileProblem
  attempt : FileAttempt
  deriving DecidableEq, Repr

/-- The text of a failed operation. -/
def FileError.message (e : FileError) : String := s!"{e.problem.text}, {e.attempt.text}"

namespace Node

/-- The node under a name. -/
def child? (name : String) : List (String × Node) → Option Node
  | [] => none
  | (other, node) :: rest => if name = other then some node else child? name rest

/-- The entries with another node under a name. -/
def setChild (name : String) (node : Node) : List (String × Node) → List (String × Node)
  | [] => [(name, node)]
  | (other, old) :: rest =>
    if name = other then (name, node) :: rest else (other, old) :: setChild name node rest

/-- What lies at the end of a path. -/
def find (node : Node) : List String → Except FileProblem Node
  | [] => .ok node
  | name :: rest =>
    match node with
    | .file _ => .error .notFolder
    | .folder entries =>
      match child? name entries with
      | none => .error .missing
      | some next => next.find rest

/-- The tree with all folders of a path. -/
def makeFolders (node : Node) : List String → Except FileProblem Node
  | [] =>
    match node with
    | .file _ => .error .present
    | .folder entries => .ok (.folder entries)
  | name :: rest =>
    match node with
    | .file _ => .error .notFolder
    | .folder entries =>
      match ((child? name entries).getD (.folder [])).makeFolders rest with
      | .error problem => .error problem
      | .ok next => .ok (.folder (setChild name next entries))

/-- The tree with another content of the file at the end of a path, which is made if only it is
missing. -/
def putFile (node : Node) (content : String) : List String → Except FileProblem Node
  | [] =>
    match node with
    | .file _ => .ok (.file content)
    | .folder _ => .error .isFolder
  | name :: rest =>
    match node with
    | .file _ => .error .notFolder
    | .folder entries =>
      match child? name entries with
      | none =>
        if rest.isEmpty then .ok (.folder (setChild name (.file content) entries))
        else .error .missing
      | some next =>
        match next.putFile content rest with
        | .error problem => .error problem
        | .ok next => .ok (.folder (setChild name next entries))

end Node

mutual

/-- The files below a node, with the ways to them. -/
def Node.leaves : Node → List (List String × String)
  | .file content => [([], content)]
  | .folder entries => entryLeaves entries

/-- The files below the entries of a folder. -/
def entryLeaves : List (String × Node) → List (List String × String)
  | [] => []
  | entry :: rest => entryLeaf entry ++ entryLeaves rest

/-- The files below an entry of a folder. -/
def entryLeaf : String × Node → List (List String × String)
  | (name, node) => node.leaves.map fun (way, content) => (name :: way, content)

end

/-- A file system. -/
structure Files where
  tree : Node := .folder []
  deriving Inhabited

namespace Files

/-- The content of a file. -/
def read (files : Files) (path : Path) : Except FileError String :=
  match files.tree.find path.segments with
  | .ok (.file content) => .ok content
  | .ok (.folder _) => .error ⟨.isFolder, .reading⟩
  | .error problem => .error ⟨problem, .opening path⟩

/-- Makes a folder, and all folders that it lies in. -/
def makeFolders (files : Files) (path : Path) : Except FileError Files :=
  match files.tree.makeFolders path.segments with
  | .ok tree => .ok ⟨tree⟩
  | .error problem => .error ⟨problem, .makingFolder path⟩

/-- Writes a file, replacing what it held. -/
def write (files : Files) (path : Path) (content : String) : Except FileError Files :=
  match files.tree.putFile content path.segments with
  | .ok tree => .ok ⟨tree⟩
  | .error problem => .error ⟨problem, .opening path⟩

/-- All files with their contents. -/
def contents (files : Files) : List (Path × String) :=
  files.tree.leaves.map fun (way, content) => (⟨way⟩, content)

end Files

end ConsoleHarness
