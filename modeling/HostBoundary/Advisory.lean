-- SUMMARY: Deprecation advisories: their text, and writing it to a sink that may fail.
import HostBoundary.Settings
import HostBoundary.Text.Emphasis
import HostBoundary.Text.Indent

/-!
# Advisories

An advisory is its content, emphasised, and an indented hint how to turn advisories off. It is written
piece by piece, and the first piece that the sink does not take completely ends it.
-/

namespace HostBoundary

/-! ## Sinks -/

/-- A place to write to. It takes as many bytes as it has room for and fails when there are more. -/
structure Sink where
  taken : Bytes := []
  room : Option Nat := none
  deriving DecidableEq, Repr

namespace Sink

/-- Writes a piece. Says whether the sink took all of it. -/
def write (sink : Sink) (piece : Bytes) : Sink × Bool :=
  match sink.room with
  | none => ({ sink with taken := sink.taken ++ piece }, true)
  | some room =>
    ({ taken := sink.taken ++ piece.take room, room := some (room - piece.length) },
      piece.length ≤ room)

/-- Writes pieces in order, up to the first one that the sink does not take completely. -/
def writeAll (sink : Sink) : List Bytes → Sink × Bool
  | [] => (sink, true)
  | piece :: rest =>
    match sink.write piece with
    | (next, true) => next.writeAll rest
    | (next, false) => (next, false)

end Sink

/-! ## Advisories -/

namespace Advisory

/-- What stands before every line of the hint. -/
def margin : List Char := [' ', ' ', ' ', ' ']

/-- How to turn advisories off. -/
def hint : String :=
  "Set env `" ++ Environment.advisoriesKey ++
    "` to 'false' to temporarily disable deprecation warnings.\n"

/-- The pieces in which an advisory is written: those of its emphasised content, a line break, the
indented hint and a line break. -/
def pieces (colour : Bool) (content : String) : List (List Char) :=
  Style.warning.pieces colour content.toList ++ [['\n'], Indent.lines margin hint.toList, ['\n']]

/-- The text of an advisory. -/
def text (colour : Bool) (content : String) : List Char := (pieces colour content).flatten

/-- The event that is reported for an advisory that is not printed. -/
def suppressed : Event where
  level := .trace
  target := "packhost_bridge::deprecation"
  message := "deprecation advisory suppressed"

/-- Writes an advisory to a sink if advisories are on. Says whether nothing failed. -/
def writeTo (sink : Sink) (colour enabled : Bool) (content : String) : Traced (Sink × Bool) := do
  if enabled then return sink.writeAll ((pieces colour content).map Utf8.encode)
  else
    Traced.report suppressed
    return (sink, true)

end Advisory

end HostBoundary
