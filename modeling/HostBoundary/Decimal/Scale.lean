-- SUMMARY: The float of a significand and a power of ten, by one or few float multiplications or divisions.

/-!
# Scaling by a power of ten

The significand is rounded to a float and then multiplied by a power of ten or divided by one.
Each step rounds, so the result can lie next to the nearest float; what is fixed is the order of
the steps.
-/

namespace HostBoundary

namespace Decimal

/-- The greatest power of ten that a float can hold. -/
def maxPower : Nat := 308

/-- The float nearest to a power of ten. -/
def power (n : Nat) : Float := Float.ofScientific 1 false n

/-- Divides by a power of ten, by the greatest one that a float can hold as often as needed. -/
def divide (x : Float) (n : Nat) : Float :=
  if n ≤ maxPower then x / power n
  else if x == 0 then x
  else divide (x / power maxPower) (n - maxPower)
termination_by n
decreasing_by simp_all [maxPower]; omega

/-- Multiplies by a power of ten, unless the product is too large for a float. -/
def multiply (x : Float) (n : Nat) : Option Float :=
  if n ≤ maxPower then
    let product := x * power n
    if product.isInf then none else some product
  else if x == 0 then some x
  else none

/-- The float of a significand of at most 64 bits times a power of ten. -/
def scale (significand : Nat) (exponent : Int) : Option Float :=
  let x := significand.toUInt64.toFloat
  if exponent < 0 then some (divide x exponent.natAbs) else multiply x exponent.natAbs

end Decimal

end HostBoundary
