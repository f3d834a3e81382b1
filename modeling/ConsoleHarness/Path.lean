/-! # Paths

A path from the root is the list of its segments.  Resolving a text against a path reads the text
segment by segment: empty segments and `.` change nothing, `..` leaves the last segment (and stays
at the root), and a text that starts with a slash starts at the root.
-/

namespace ConsoleHarness

/-- A path from the root. -/
structure Path where
  segments : List String := []
  deriving DecidableEq, Repr, Inhabited

namespace Path

/-- The pieces between the slashes of a text. -/
def pieces : List Char → List (List Char)
  | [] => [[]]
  | c :: rest =>
    if c = '/' then [] :: pieces rest
    else
      match pieces rest with
      | [] => [[c]]
      | piece :: more => (c :: piece) :: more

/-- One step from a path, whose segments are listed from the last to the first. -/
def step (walked : List String) (piece : String) : List String :=
  if piece = "" ∨ piece = "." then walked
  else if piece = ".." then walked.tail
  else piece :: walked

/-- The path that a text names, seen from another path. -/
def resolve (base : Path) (text : String) : Path :=
  let start := if text.toList.head? = some '/' then [] else base.segments.reverse
  ⟨(((pieces text.toList).map String.ofList).foldl step start).reverse⟩

/-- The root. -/
def root : Path := {}

/-- The path that a text names, seen from the root. -/
def ofText (text : String) : Path := root.resolve text

/-- The text of a path: a slash before every segment, and one for the root. -/
def text (p : Path) : String :=
  if p.segments.isEmpty then "/" else String.join (p.segments.map ("/" ++ ·))

/-- The folder that a path lies in; the root lies in itself. -/
def parent (p : Path) : Path := ⟨p.segments.dropLast⟩

@[simp] theorem pieces_nil : pieces [] = [[]] := rfl

@[simp] theorem pieces_slash (rest : List Char) : pieces ('/' :: rest) = [] :: pieces rest := rfl

@[simp] theorem text_root : root.text = "/" := rfl

end Path

end ConsoleHarness
