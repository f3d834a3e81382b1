/-! # Markers

A read goes on until the text it has read ends with a marker.  The text comes in chunks that may be
cut anywhere, also inside the marker, so a read carries a *window* from chunk to chunk: the last
characters read, as many as the marker has.
-/

namespace ConsoleHarness.Marker

/-- The window after one more character. -/
def slide (marker window : List Char) (c : Char) : List Char :=
  (window ++ [c]).drop (window.length + 1 - marker.length)

/-- The window after a whole chunk. -/
def windowAfter (marker window chunk : List Char) : List Char :=
  chunk.foldl (slide marker) window

/-- How many characters of a chunk to read until the text ends with the marker, counted on from
`count`; `none` if no place in the chunk ends it. -/
def endIn? (marker window : List Char) (count : Nat) : List Char → Option Nat
  | [] => none
  | c :: rest =>
    if slide marker window c = marker then some (count + 1)
    else endIn? marker (slide marker window c) (count + 1) rest

@[simp] theorem windowAfter_nil (marker window : List Char) :
    windowAfter marker window [] = window := rfl

@[simp] theorem windowAfter_cons (marker window : List Char) (c : Char) (rest : List Char) :
    windowAfter marker window (c :: rest)
      = windowAfter marker (slide marker window c) rest := rfl

@[simp] theorem endIn?_nil (marker window : List Char) (count : Nat) :
    endIn? marker window count [] = none := rfl

theorem endIn?_cons (marker window : List Char) (count : Nat) (c : Char) (rest : List Char) :
    endIn? marker window count (c :: rest)
      = if slide marker window c = marker then some (count + 1)
        else endIn? marker (slide marker window c) (count + 1) rest := rfl

end ConsoleHarness.Marker
