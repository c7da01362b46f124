-- SUMMARY: Blank characters of any script, and texts without blanks at their ends.
import HostBoundary.Text.CharRanges

/-!
# Blanks

The characters that count as blank in any script, with the separators of lines and paragraphs among
them. A blank has no width of its own content: what does not show but joins or splits words, such as
U+200B, is none.
-/

namespace HostBoundary

namespace Blank

/-- The ranges of blank characters. -/
def ranges : CharRanges :=
  [(0x09, 0x0D), (0x20, 0x20), (0x85, 0x85), (0xA0, 0xA0), (0x1680, 0x1680), (0x2000, 0x200A),
    (0x2028, 0x2029), (0x202F, 0x202F), (0x205F, 0x205F), (0x3000, 0x3000)]

/-- Whether a character is blank. -/
def contains (c : Char) : Bool := ranges.contain c

/-- Characters without blanks in front. -/
def trimFront (cs : List Char) : List Char := cs.dropWhile contains

/-- Characters without blanks at either end. -/
def trim (cs : List Char) : List Char := (trimFront (trimFront cs).reverse).reverse

end Blank

end HostBoundary
