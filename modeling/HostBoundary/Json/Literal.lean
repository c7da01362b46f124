-- SUMMARY: Number literals: their parts, scanning them, and the number they denote.
import HostBoundary.Json.Basic
import HostBoundary.Json.Scan
import HostBoundary.Decimal.Digits
import HostBoundary.Decimal.Scale

/-!
# Number literals

A literal is scanned into its parts first and valued afterwards. Without a fraction and an
exponent it is an integer if one word holds it. Any other literal is a float: as many of its
digits as fit into 64 bits make the significand, and what is left over moves the decimal point.
-/

namespace HostBoundary

namespace Json

/-- The parts of a number literal. An integer literal has neither fraction nor exponent. -/
structure Literal where
  negative : Bool
  whole : List Char
  fraction : List Char := []
  hasExponent : Bool := false
  exponentNegative : Bool := false
  exponent : List Char := []

namespace Literal

/-! ## Scanning -/

/-- The digits in front, and the rest. -/
def spanDigits (cs : List Char) : List Char × List Char := cs.span Char.isDigit

/-- Reads one digit or more; the cause for an end of the text is given. -/
def someDigits (atEnd : Cause) : Scan (List Char) := fun cs =>
  match cs with
  | [] => .error (.on atEnd [])
  | c :: _ => if c.isDigit then .ok (spanDigits cs) else .error (.on .invalidNumber cs)

/-- Reads the digits before the point. A zero in front stands alone. -/
def scanWhole (atEnd : Cause) : Scan (List Char) := fun cs =>
  match cs with
  | '0' :: rest =>
    match rest with
    | c :: _ => if c.isDigit then .error (.on .invalidNumber rest) else .ok (['0'], rest)
    | [] => .ok (['0'], [])
  | _ => someDigits atEnd cs

/-- Reads the point and the digits after it, if there is a point. -/
def scanFraction (atEnd : Cause) : Scan (List Char) := fun cs =>
  match cs with
  | '.' :: rest => someDigits atEnd rest
  | _ => .ok ([], cs)

/-- Reads the sign of an exponent. -/
def scanSign : List Char → Bool × List Char
  | '+' :: rest => (false, rest)
  | '-' :: rest => (true, rest)
  | cs => (false, cs)

/-- Reads the exponent of a literal, if it has one. -/
def scanExponent (atEnd : Cause) (literal : Literal) : Scan Literal := fun cs =>
  match cs with
  | c :: rest =>
    if c = 'e' ∨ c = 'E' then do
      let (negative, rest) := scanSign rest
      let (ds, rest) ← someDigits atEnd rest
      .ok ({ literal with hasExponent := true, exponentNegative := negative, exponent := ds }, rest)
    else .ok (literal, cs)
  | [] => .ok (literal, [])

/-- Reads a number literal; the cause for an end of the text inside it is given. -/
def scan (atEnd : Cause) : Scan Literal := fun cs => do
  let (negative, rest) := match cs with
    | '-' :: rest => (true, rest)
    | _ => (false, cs)
  let (whole, rest) ← scanWhole atEnd rest
  let (fraction, rest) ← scanFraction atEnd rest
  scanExponent atEnd { negative, whole, fraction } rest

/-! ## Values -/

/-- Appends digits to a number while it fits into 64 bits. Gives the number and the digits left. -/
def append (n : Nat) : List Char → Nat × List Char
  | [] => (n, [])
  | d :: ds =>
    let longer := n * 10 + Decimal.digitValue d
    if longer < 0x10000000000000000 then append longer ds else (n, d :: ds)

/-- The significand of a literal, and the power of ten that goes with it before the exponent. -/
def significand (literal : Literal) : Nat × Int :=
  let (n, dropped) := append 0 literal.whole
  let (m, skipped) := append n literal.fraction
  (m, (dropped.length : Int) + skipped.length - literal.fraction.length)

/-- Whether the literal has no digit but zeros before its exponent. -/
def isZero (literal : Literal) : Bool :=
  literal.whole.all (· == '0') && literal.fraction.all (· == '0')

/-- The exponent of a literal. -/
def exponentValue (literal : Literal) : Int :=
  if literal.exponentNegative then -(Decimal.ofDigits literal.exponent : Int)
  else Decimal.ofDigits literal.exponent

/-- The greatest exponent that is counted. -/
def maxExponent : Nat := 0x7FFFFFFF

/-- The digits that follow the one with which a sequence exceeds the greatest exponent. -/
def afterExcess (n : Nat) : List Char → Option (List Char)
  | [] => none
  | d :: ds =>
    let longer := n * 10 + Decimal.digitValue d
    if maxExponent < longer then some ds else afterExcess longer ds

/-- The digits of the exponent that are left when it has become too large for any number but
zero. -/
def excess? (literal : Literal) : Option (List Char) :=
  if literal.exponentNegative || literal.isZero then none else afterExcess 0 literal.exponent

/-- The integer that a literal denotes, if it is an integer literal. Minus zero is none. -/
def integer? (literal : Literal) : Option Int :=
  if literal.fraction.isEmpty && !literal.hasExponent then
    let n := Decimal.ofDigits literal.whole
    if literal.negative then if n = 0 then none else some (-n) else some n
  else none

/-- The float that a literal denotes, unless it is too large. -/
def float? (literal : Literal) : Option Float :=
  let (n, power) := literal.significand
  (Decimal.scale n (power + literal.exponentValue)).map fun x =>
    if literal.negative then -x else x

/-- The number that a literal denotes, unless it is too large. -/
def number? (literal : Literal) : Option Number :=
  match literal.integer? with
  | some n => if h : IsWord n then some (.int n h) else literal.float?.map .float
  | none => literal.float?.map .float

end Literal

/-- Reads a number. -/
def scanNumber : Scan Number := fun cs => do
  let (literal, rest) ← Literal.scan .endOfValue cs
  match literal.excess? with
  | some ds => .error (.before .numberOutOfRange (ds ++ rest))
  | none =>
    match literal.number? with
    | some n => .ok (n, rest)
    | none => .error (.before .numberOutOfRange rest)

end Json

end HostBoundary
