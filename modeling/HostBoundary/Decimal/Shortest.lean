-- SUMMARY: The shortest decimal digits that read back as a given float, found in exact arithmetic.
import HostBoundary.Decimal.Digits

/-!
# Shortest digits of a float

A positive float is an integer times a power of two, and the reals that round to it form an
interval around it. The shortest decimal is looked for on grids of one digit, two digits and so on:
on each grid only the two neighbours of the float can lie in the interval. The first grid with a
hit wins, of two hits the nearer one, and of two equally near ones the even one. Seventeen digits
always suffice.
-/

namespace HostBoundary

namespace Decimal

/-- A positive float in exact terms: the float and the ends of the interval of reals that round to
it, as multiples of one power of two. -/
structure Rounding where
  middle : Nat
  low : Nat
  high : Nat
  /-- Whether the ends round to the float, too. -/
  closed : Bool
  /-- The power of two of the unit. -/
  unit : Int

namespace Rounding

/-- How many fractions there are to each exponent. -/
def fractions : Nat := 0x10000000000000

/-- The interval of a float, given the bits of its absolute value. The unit is a quarter of the last
place, since below a power of two the next float is half as far away as above it. -/
def ofBits (bits : Nat) : Rounding :=
  let exponent := bits / fractions
  let fraction := bits % fractions
  let mantissa := if exponent = 0 then fraction else fractions + fraction
  { middle := 4 * mantissa
    low := 4 * mantissa - (if fraction = 0 ∧ 1 < exponent then 1 else 2)
    high := 4 * mantissa + 2
    closed := mantissa % 2 = 0
    unit := (max exponent 1 : Nat) - 1077 }

end Rounding

/-- Decimal digits: `significand` times ten to the power `exponent`. -/
structure Shortest where
  significand : Nat
  exponent : Int
  deriving Repr, DecidableEq

namespace Shortest

/-- The interval measured on the grid of multiples of a power of ten, as numerators over one
denominator: middle, low end, high end, denominator. -/
def onGrid (r : Rounding) (exponent : Int) : Nat × Nat × Nat × Nat :=
  let up := Nat.pow 2 r.unit.toNat * Nat.pow 10 (-exponent).toNat
  let down := Nat.pow 2 (-r.unit).toNat * Nat.pow 10 exponent.toNat
  (r.middle * up, r.low * up, r.high * up, down)

/-- The neighbour of the float on a grid that reads back as the float, if one does. -/
def hit? (r : Rounding) (exponent : Int) : Option Nat :=
  let (middle, low, high, one) := onGrid r exponent
  let below := middle / one
  let above := below + 1
  let fits (n : Nat) : Bool :=
    if r.closed then low ≤ n * one && n * one ≤ high else low < n * one && n * one < high
  match fits below, fits above with
  | true, true =>
    let toBelow := middle - below * one
    let toAbove := above * one - middle
    if toBelow < toAbove then some below
    else if toAbove < toBelow then some above
    else if below % 2 = 0 then some below else some above
  | true, false => some below
  | false, true => some above
  | false, false => none

/-- The exponent of the least power of ten above the float. The scale makes every positive float
greater than one. -/
def top (r : Rounding) : Int :=
  let scale := 400
  let (middle, _, _, one) := onGrid r (-scale)
  (digits (middle / one)).length - scale

/-- Looks for a hit on the grids that are finer than a power of ten by the given numbers of
places. -/
def search (r : Rounding) (top : Int) : List Nat → Option Shortest
  | [] => none
  | places :: more =>
    match hit? r (top - places) with
    | some n => some ⟨n, top - places⟩
    | none => search r top more

/-- The shortest digits of a positive float, given the bits of its absolute value. The first grid
has no other positive point in reach than the power of ten above the float. -/
def ofBits (bits : Nat) : Shortest :=
  let r := Rounding.ofBits bits
  (search r (top r) (List.range 18)).getD ⟨0, 0⟩

end Shortest

/-! ## Layout -/

/-- How the digits of a float are laid out. -/
structure Layout where
  /-- The least power of ten of a leading digit that is written without an exponent. -/
  plainFrom : Int
  /-- The greatest power of ten of a leading digit that is written without an exponent. -/
  plainTo : Int
  /-- What stands behind a whole number that is written without an exponent. -/
  wholeEnd : List Char
  /-- What stands before an exponent that is not negative, and before one that is. -/
  exponentMark : List Char × List Char
  /-- What is written for infinities and for what is not a number. -/
  notFinite : List Char

namespace Layout

/-- Digits without an exponent; the leading one counts the given power of ten. -/
def plain (layout : Layout) (ds : List Char) (leading : Int) : List Char :=
  if leading < 0 then '0' :: '.' :: (List.replicate (leading.natAbs - 1) '0' ++ ds)
  else
    let places := leading.natAbs + 1
    if ds.length ≤ places then
      ds ++ List.replicate (places - ds.length) '0' ++ layout.wholeEnd
    else ds.take places ++ '.' :: ds.drop places

/-- Digits with an exponent; the leading one counts the given power of ten. -/
def scientific (layout : Layout) (ds : List Char) (leading : Int) : List Char :=
  let mark := if leading < 0 then layout.exponentMark.2 else layout.exponentMark.1
  let mantissa := match ds with
    | [] => []
    | [d] => [d]
    | d :: more => d :: '.' :: more
  mantissa ++ mark ++ digits leading.natAbs

/-- Digits in the form that the power of ten of the leading one asks for. -/
def write (layout : Layout) (s : Shortest) : List Char :=
  let ds := digits s.significand
  let leading := s.exponent + ds.length - 1
  if layout.plainFrom ≤ leading ∧ leading ≤ layout.plainTo then layout.plain ds leading
  else layout.scientific ds leading

/-- The highest bit of a float, which is its sign. -/
def signBit : Nat := 0x8000000000000000

/-- The bits of infinity. -/
def infinity : Nat := 0x7FF0000000000000

/-- A float in its shortest form. -/
def float (layout : Layout) (x : Float) : List Char :=
  let bits := x.toBits.toNat
  let magnitude := bits % signBit
  if infinity ≤ magnitude then layout.notFinite
  else
    let text :=
      if magnitude = 0 then '0' :: layout.wholeEnd else layout.write (Shortest.ofBits magnitude)
    if signBit ≤ bits then '-' :: text else text

end Layout

end Decimal

end HostBoundary
