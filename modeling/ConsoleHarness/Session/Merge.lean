import ConsoleHarness.Text.Utf8

/-! # Merged output

The output of a target comes from several sources and is read as one stream.  Data goes through in
the order in which it arrives; the end of one source ends nothing, while an error of any source, or
an error or the end of the target, ends the merged stream, which takes nothing after that.
-/

namespace ConsoleHarness

/-- Something that happens to a source, or to the target that has them. -/
inductive MergeEvent where
  | data (source : Nat) (bytes : List UInt8)
  | finished (source : Nat)
  /-- The source reports an error and lives on. -/
  | reported (source : Nat)
  /-- The source is destroyed with an error. -/
  | destroyed (source : Nat)
  /-- The target reports an error: it could not be run, or a signal could not be sent to it. -/
  | failed
  /-- The target is gone. -/
  | gone
  deriving DecidableEq, Repr

namespace MergeEvent

/-- The source that brings nothing any more after an event. -/
def silenced : MergeEvent → Option Nat
  | .finished source | .destroyed source => some source
  | .data .. | .reported _ | .failed | .gone => none

/-- Whether an event is seen, given the sources that bring nothing any more: those have neither data
nor another error of their own. -/
def isSeen (silent : List Nat) : MergeEvent → Bool
  | .data source _ | .destroyed source => !silent.contains source
  | .finished _ | .reported _ | .failed | .gone => true

end MergeEvent

/-! ## What is written to -/

/-- A stream that is written to. -/
structure Sink where
  /-- The chunks that were written, oldest first. -/
  chunks : List (List UInt8) := []
  ended : Bool := false
  /-- How often it was told to end. -/
  endings : Nat := 0
  /-- What was written after the end; each such write raises an error. -/
  late : List (List UInt8) := []
  deriving DecidableEq, Repr, Inhabited

namespace Sink

/-- Writes a chunk. -/
def write (s : Sink) (bytes : List UInt8) : Sink :=
  if s.ended then { s with late := s.late ++ [bytes] } else { s with chunks := s.chunks ++ [bytes] }

/-- Tells the stream to end. -/
def finish (s : Sink) : Sink := { s with ended := true, endings := s.endings + 1 }

/-- Writes a chunk unless the stream has ended. -/
def pass (s : Sink) (bytes : List UInt8) : Sink := if s.ended then s else s.write bytes

/-- Tells the stream to end unless it has. -/
def close (s : Sink) : Sink := if s.ended then s else s.finish

/-- What the program does on an event that it sees. -/
def handle (s : Sink) : MergeEvent → Sink
  | .data _ bytes => s.pass bytes
  | .finished _ => s
  | .reported _ | .destroyed _ | .failed | .gone => s.close

/-- The bytes that were written. -/
def bytes (s : Sink) : List UInt8 := s.chunks.flatten

end Sink

/-! ## Sources and merged stream -/

/-- A merged stream, and the sources that bring nothing any more. -/
structure Merge where
  sink : Sink := {}
  silent : List Nat := []
  deriving DecidableEq, Repr, Inhabited

namespace Merge

/-- What an event does to a merged stream. -/
def step (m : Merge) (event : MergeEvent) : Merge where
  sink := if event.isSeen m.silent then m.sink.handle event else m.sink
  silent := event.silenced.toList ++ m.silent

/-- The merged stream after a course of events. -/
def run (events : List MergeEvent) : Merge := events.foldl step {}

/-- Whether the merged stream takes nothing any more. -/
def ended (m : Merge) : Bool := m.sink.ended

/-- Reads chunks as text, up to the given end. -/
def textFrom (decoder : Text.Decoder) (ended : Bool) : List (List UInt8) → List Char
  | [] => if ended then decoder.finish else []
  | chunk :: rest =>
    let (decoder, text) := decoder.feed chunk
    text ++ textFrom decoder ended rest

/-- The text received so far. -/
def received (m : Merge) : String := String.ofList (textFrom {} m.ended m.sink.chunks)

end Merge

end ConsoleHarness
