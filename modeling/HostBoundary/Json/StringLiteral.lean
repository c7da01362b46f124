-- SUMMARY: String literals: escapes, scanning from after the opening quote, and writing.
import HostBoundary.Json.Scan

/-!
# String literals

A literal stands between quotes. A quote, a backslash and the characters below U+0020 are written
as escapes; reading takes more escapes than writing makes, among them four hexadecimal digits for
any 16-bit unit. A unit that leads a surrogate pair must be followed by one that ends it.
-/

namespace HostBoundary

namespace Json

namespace StringLiteral

/-! ## Reading -/

/-- Whether a character may not stand in a literal as itself. -/
def isControl (c : Char) : Bool := c < ' '

/-- The value of a hexadecimal digit. -/
def hexValue? (c : Char) : Option Nat :=
  if '0' ≤ c ∧ c ≤ '9' then some (c.toNat - '0'.toNat)
  else if 'a' ≤ c ∧ c ≤ 'f' then some (c.toNat - 'a'.toNat + 10)
  else if 'A' ≤ c ∧ c ≤ 'F' then some (c.toNat - 'A'.toNat + 10)
  else none

/-- The number that hexadecimal digits denote. -/
def hexNumber? (n : Nat) : List Char → Option Nat
  | [] => some n
  | c :: cs => (hexValue? c).bind fun d => hexNumber? (n * 16 + d) cs

/-- The 16-bit unit at the beginning of a text. Four bytes are taken before they are looked at, so
a text that is too short ends the literal. -/
def hexUnit (cs : List Char) : Except Stop Nat :=
  if Utf8.length cs < 4 then .error (.before .endOfString [])
  else
    match cs with
    | a :: b :: c :: d :: _ =>
      match hexNumber? 0 [a, b, c, d] with
      | some n => .ok n
      | none => .error ⟨.invalidEscape, cs, 4⟩
    | _ => .error ⟨.invalidEscape, cs, 4⟩

/-- Whether a unit leads a surrogate pair. -/
def isLeading (n : Nat) : Bool := 0xD800 ≤ n && n ≤ 0xDBFF

/-- Whether a unit ends a surrogate pair. -/
def isTrailing (n : Nat) : Bool := 0xDC00 ≤ n && n ≤ 0xDFFF

/-- The character of a surrogate pair. -/
def joined (leading trailing : Nat) : Char :=
  Char.ofNat ((leading - 0xD800) * 0x400 + (trailing - 0xDC00) + 0x10000)

/-- Reads the second half of a surrogate pair, from after the digits of the first. -/
def trailingUnit : List Char → Except Stop Nat
  | '\\' :: 'u' :: cs => do
    let n ← hexUnit cs
    if isTrailing n then .ok n else .error (.before .loneSurrogate (cs.drop 4))
  | '\\' :: c :: cs => .error (.on .endOfHexEscape (c :: cs))
  | '\\' :: [] => .error (.on .endOfString [])
  | [] => .error (.on .endOfString [])
  | c :: cs => .error (.on .endOfHexEscape (c :: cs))

/-- Reads the digits of a hexadecimal escape. Gives the character and how many characters of the
text it takes. -/
def hexEscape (cs : List Char) : Except Stop (Char × Nat) := do
  let n ← hexUnit cs
  if isTrailing n then .error (.before .loneSurrogate (cs.drop 4))
  else if isLeading n then do
    let m ← trailingUnit (cs.drop 4)
    .ok (joined n m, 10)
  else .ok (Char.ofNat n, 4)

/-- The character of an escape of one letter. -/
def ofLetter? : Char → Option Char
  | '"' => some '"'
  | '\\' => some '\\'
  | '/' => some '/'
  | 'b' => some '\x08'
  | 'f' => some '\x0c'
  | 'n' => some '\n'
  | 'r' => some '\r'
  | 't' => some '\t'
  | _ => none

/-- Reads an escape from after its backslash. Gives the character it stands for and how many
characters of the text it takes. -/
def escape : List Char → Except Stop (Char × Nat)
  | [] => .error (.on .endOfString [])
  | 'u' :: cs => do
    let (c, taken) ← hexEscape cs
    .ok (c, taken + 1)
  | c :: cs =>
    match ofLetter? c with
    | some d => .ok (d, 1)
    | none => .error (.on .invalidEscape (c :: cs))

/-- Reads the characters of a literal from after its opening quote to after its closing one. -/
def scanChars (cs : List Char) : Except Stop (List Char × List Char) :=
  match cs with
  | [] => .error (.on .endOfString [])
  | c :: rest =>
    if c = '"' then .ok ([], rest)
    else if c = '\\' then do
      let (d, taken) ← escape rest
      let (ds, left) ← scanChars (rest.drop taken)
      .ok (d :: ds, left)
    else if isControl c then .error (.on .controlCharacter (c :: rest))
    else do
      let (ds, left) ← scanChars rest
      .ok (c :: ds, left)
termination_by cs.length
decreasing_by all_goals simp only [List.length_drop, List.length_cons]; omega

/-- Reads a literal from after its opening quote. -/
def scan : Scan String := fun cs => do
  let (ds, rest) ← scanChars cs
  .ok (String.ofList ds, rest)

/-! ## Passing over -/

/-- How many characters an escape takes, from after its backslash. A single unit is enough for the
hexadecimal form, whatever it stands for. -/
def escapeLength : List Char → Except Stop Nat
  | [] => .error (.on .endOfString [])
  | 'u' :: cs => do
    let _ ← hexUnit cs
    .ok 5
  | c :: cs =>
    if (ofLetter? c).isSome then .ok 1 else .error (.on .invalidEscape (c :: cs))

/-- Passes over a literal from after its opening quote to after its closing one. -/
def skip (cs : List Char) : Except Stop (List Char) :=
  match cs with
  | [] => .error (.on .endOfString [])
  | c :: rest =>
    if c = '"' then .ok rest
    else if c = '\\' then do
      let taken ← escapeLength rest
      skip (rest.drop taken)
    else if isControl c then .error (.before .controlCharacter (c :: rest))
    else skip rest
termination_by cs.length
decreasing_by all_goals simp only [List.length_drop, List.length_cons]; omega

/-! ## Writing -/

/-- A hexadecimal digit. -/
def hexDigit (n : Nat) : Char := Nat.digitChar n

/-- A character as it stands in a literal. -/
def writeChar (c : Char) : List Char :=
  if c = '"' then ['\\', '"']
  else if c = '\\' then ['\\', '\\']
  else if c = '\x08' then ['\\', 'b']
  else if c = '\x0c' then ['\\', 'f']
  else if c = '\n' then ['\\', 'n']
  else if c = '\r' then ['\\', 'r']
  else if c = '\t' then ['\\', 't']
  else if isControl c then ['\\', 'u', '0', '0', hexDigit (c.toNat / 16), hexDigit (c.toNat % 16)]
  else [c]

/-- A text as a literal. -/
def write (text : String) : List Char := '"' :: (text.toList.flatMap writeChar ++ ['"'])

end StringLiteral

end Json

end HostBoundary
