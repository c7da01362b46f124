-- SUMMARY: Line and column of a place in a text, counted in bytes.
import HostBoundary.Text.Utf8

/-!
# Positions

A place in a text is described by what has been read before it: lines count from one, and the
column is the number of bytes since the last line break.
-/

namespace HostBoundary

/-- A place in a text. -/
structure Position where
  line : Nat
  column : Nat
  deriving Repr, DecidableEq

namespace Position

/-- The byte that ends a line. -/
def lineBreak : UInt8 := 0x0A

/-- The place reached after the given bytes. -/
def after (read : Bytes) : Position where
  line := read.count lineBreak + 1
  column := (read.reverse.takeWhile (· != lineBreak)).length

end Position

end HostBoundary
