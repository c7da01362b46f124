-- SUMMARY: Putting a margin before the lines of a text.

/-!
# Indentation

The margin stands before the first line and before every later line that is not empty.
-/

namespace HostBoundary

namespace Indent

/-- Puts the margin behind every line break that is followed by a character other than a line
break. -/
def laterLines (margin : List Char) : List Char → List Char
  | [] => []
  | c :: rest =>
    if c = '\n' ∧ rest.head?.any (· ≠ '\n') then c :: (margin ++ laterLines margin rest)
    else c :: laterLines margin rest

/-- A text with a margin. -/
def lines (margin text : List Char) : List Char := margin ++ laterLines margin text

end Indent

/-- A text with a margin before its lines. -/
def indent (text margin : String) : String :=
  String.ofList (Indent.lines margin.toList text.toList)

end HostBoundary
