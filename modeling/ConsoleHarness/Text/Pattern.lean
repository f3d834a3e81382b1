/-! # Patterns in a text

A pattern says how far it matches at the start of a text.  Its matches are removed from left to
right: where one starts the text goes on behind it, and elsewhere the character stays.
-/

namespace ConsoleHarness.Text

/-- A pattern.  A match has at least one character. -/
structure Pattern where
  /-- What is left of a text behind the match that it starts with. -/
  behind? : List Char → Option (List Char)
  shorter : ∀ {cs left}, behind? cs = some left → left.length < cs.length

namespace Pattern

/-- Removes every leftmost match. -/
def remove (p : Pattern) : List Char → List Char
  | [] => []
  | c :: rest =>
    match _ : p.behind? (c :: rest) with
    | some left => p.remove left
    | none => c :: p.remove rest
  termination_by cs => cs.length
  decreasing_by
    · exact p.shorter ‹_›
    · simp

/-- A text without the matches of a pattern. -/
def removeFrom (p : Pattern) (text : String) : String := String.ofList (p.remove text.toList)

end Pattern

end ConsoleHarness.Text
