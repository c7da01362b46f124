-- SUMMARY: Sets of characters, given as ranges of code points.

/-!
# Ranges of characters

A set of characters that a standard lists is written as ranges of code points, each by its first and
its last. A character is in the set when some range has it between its ends.
-/

namespace HostBoundary

/-- A set of characters: the first and the last code point of each range. -/
abbrev CharRanges := List (Nat × Nat)

namespace CharRanges

/-- Whether a character lies in one of the ranges. -/
def contain (ranges : CharRanges) (c : Char) : Bool :=
  ranges.any fun range => range.1 ≤ c.toNat && c.toNat ≤ range.2

end CharRanges

end HostBoundary
