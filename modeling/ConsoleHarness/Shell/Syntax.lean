/-! # Shell commands

The commands of a small command language: enough of it to write the programs that stand in for an
emulator.  A word is a list of pieces, since what is quoted and what is not matters until the word
is expanded.
-/

namespace ConsoleHarness.Shell

/-- A piece of a word. -/
inductive Piece where
  | bare (text : String)
  | quoted (text : String)
  /-- The value of a parameter, or a text if it has none. -/
  | parameter (name : String) (fallback : Option String) (isQuoted : Bool)
  /-- The number of characters of a parameter's value. -/
  | length (name : String)
  /-- The output of a script. -/
  | command (script : String) (isQuoted : Bool)
  /-- The value of an arithmetic expression. -/
  | arithmetic (expression : String)
  deriving DecidableEq, Repr, Inhabited

/-- A word before it is expanded. -/
abbrev Word := List Piece

/-- The text of a piece that is neither quoted nor expanded. -/
def Piece.bareText? : Piece → Option String
  | .bare text => some text
  | _ => none

/-- The text of a word of which nothing is quoted or expanded. -/
def Word.bareText? (w : Word) : Option String := (w.mapM Piece.bareText?).map String.join

/-- What a redirection does with a descriptor. -/
inductive RedirectKind where
  | write
  | append
  | read
  /-- The descriptor becomes the same as another one, or is closed. -/
  | duplicate
  deriving DecidableEq, Repr

/-- A redirection of a descriptor. -/
structure Redirect where
  descriptor : Nat
  kind : RedirectKind
  target : Word
  deriving DecidableEq, Repr

/-- A command. -/
inductive Command where
  | nothing
  | simple (assignments : List (String × Word)) (words : List Word) (redirects : List Redirect)
  | sequence (first second : Command)
  | both (first second : Command)
  | either (first second : Command)
  | negated (command : Command)
  /-- A command that the next one does not wait for. -/
  | beside (command : Command)
  | pipe (first second : Command)
  | choice (test yes no : Command)
  | loop (isUntil : Bool) (test body : Command)
  | each (name : String) (words : Option (List Word)) (body : Command)
  | select (word : Word) (branches : List (List Word × Command))
  | group (body : Command) (redirects : List Redirect)
  /-- A command with variables of its own. -/
  | apart (body : Command) (redirects : List Redirect)
  | function (name : String) (body : Command)
  deriving Inhabited

end ConsoleHarness.Shell
