/-! # Console bytes as text

Bytes are read as one UTF-8 stream.  `decode` reads a whole byte sequence: each longest start of a
character that cannot be completed becomes one U+FFFD, and so does a character cut off by the end.
`Decoder` reads the same stream chunk by chunk: the tail of a chunk that begins with a lead byte
and is shorter than that lead announces is held back until its bytes arrive, and `Decoder.finish`
gives what is still held when the stream ends.
-/

namespace ConsoleHarness.Text

/-- The character that stands for bytes which are no text. -/
def replacement : Char := '\uFFFD'

/-! ## Whole sequences -/

/-- Where a reader stands between two bytes: between characters, or inside one with the bits read
so far, the number of bytes owed, and the range that the next byte must lie in. -/
inductive Utf8State where
  | between
  | inside (bits owed low high : Nat)
  deriving DecidableEq, Repr

/-- Reads a byte that starts a character.  A byte that starts none is replaced at once. -/
def Utf8State.start (b : Nat) : Utf8State × List Char :=
  if b < 0x80 then (.between, [Char.ofNat b])
  else if b < 0xC2 then (.between, [replacement])
  else if b < 0xE0 then (.inside (b % 0x20) 1 0x80 0xBF, [])
  else if b = 0xE0 then (.inside 0 2 0xA0 0xBF, [])
  else if b = 0xED then (.inside 0xD 2 0x80 0x9F, [])
  else if b < 0xF0 then (.inside (b % 0x10) 2 0x80 0xBF, [])
  else if b = 0xF0 then (.inside 0 3 0x90 0xBF, [])
  else if b < 0xF4 then (.inside (b % 0x8) 3 0x80 0xBF, [])
  else if b = 0xF4 then (.inside 4 3 0x80 0x8F, [])
  else (.between, [replacement])

/-- Reads one byte.  A byte that cannot continue a character ends it as broken and starts anew. -/
def Utf8State.step (s : Utf8State) (b : Nat) : Utf8State × List Char :=
  match s with
  | .between => Utf8State.start b
  | .inside bits owed low high =>
    if low ≤ b ∧ b ≤ high then
      let bits := bits * 0x40 + (b - 0x80)
      if owed ≤ 1 then (.between, [Char.ofNat bits])
      else (.inside bits (owed - 1) 0x80 0xBF, [])
    else
      let (next, text) := Utf8State.start b
      (next, replacement :: text)

/-- What the end of the stream adds: a character left incomplete is replaced. -/
def Utf8State.close : Utf8State → List Char
  | .between => []
  | .inside .. => [replacement]

/-- The text of a byte sequence read from the given state to its end. -/
def decodeFrom (s : Utf8State) : List UInt8 → List Char
  | [] => s.close
  | b :: rest =>
    let (next, text) := s.step b.toNat
    text ++ decodeFrom next rest

/-- The text of a whole byte sequence. -/
def decode (bytes : List UInt8) : List Char := decodeFrom .between bytes

/-! ## Chunk by chunk -/

/-- Whether a byte can only continue a character. -/
def isContinuation (b : UInt8) : Bool := 0x80 ≤ b && b < 0xC0

/-- The length of the character that a lead byte announces, zero if it is no lead byte. -/
def announced (b : UInt8) : Nat :=
  if 0xC0 ≤ b && b < 0xE0 then 2
  else if 0xE0 ≤ b && b < 0xF0 then 3
  else if 0xF0 ≤ b && b < 0xF8 then 4
  else 0

/-- How many bytes at the end of a chunk belong to a character that is still incomplete: the lead
byte before the last continuation bytes announces more than follow. -/
def heldBack (chunk : List UInt8) : Nat :=
  let backwards := chunk.reverse
  let tail := backwards.takeWhile isContinuation
  match backwards.drop tail.length with
  | [] => 0
  | lead :: _ => if tail.length + 1 < announced lead then tail.length + 1 else 0

/-- A chunk cut before the bytes that are held back. -/
def splitHeld (chunk : List UInt8) : List UInt8 × List UInt8 :=
  let body := chunk.length - heldBack chunk
  (chunk.take body, chunk.drop body)

/-- The state of a stream that is read chunk by chunk: the bytes held back. -/
structure Decoder where
  held : List UInt8 := []
  deriving DecidableEq, Repr, Inhabited

namespace Decoder

/-- Reads a chunk: the text that it completes, and what is held back of it. -/
def feed (d : Decoder) (chunk : List UInt8) : Decoder × List Char :=
  match d.held with
  | [] =>
    let (body, tail) := splitHeld chunk
    (⟨tail⟩, decode body)
  | lead :: _ =>
    let missing := announced lead - d.held.length
    let found := (chunk.take missing).takeWhile isContinuation
    let rest := chunk.drop found.length
    if found.length = missing ∨ ¬ rest.isEmpty then
      let (body, tail) := splitHeld rest
      (⟨tail⟩, decode (d.held ++ found) ++ decode body)
    else (⟨d.held ++ found⟩, [])

/-- The text of the bytes still held when the stream ends. -/
def finish (d : Decoder) : List Char := decode d.held

end Decoder

/-- The bytes of a text. -/
def encode (s : String) : List UInt8 := s.toUTF8.toList

end ConsoleHarness.Text
