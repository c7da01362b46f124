-- SUMMARY: Reading documents: values with a bound on nesting, and whole texts.
import HostBoundary.Json.Literal
import HostBoundary.Json.StringLiteral

/-!
# Reading documents

The first character of a value says what the value is. Arrays and objects may stand inside one
another up to a bound. What is read is the tree as the text has it, with its fields in order and
repeated keys in place; `Json.parse` merges them.
-/

namespace HostBoundary

namespace Json

/-- How many arrays and objects may stand inside one another in a text. -/
def maxDepth : Nat := 127

/-- Reads the colon between a key and its value. -/
def scanColon (cs : List Char) : Except Stop (List Char) :=
  match skipBlank cs with
  | [] => .error (.on .endOfObject [])
  | c :: rest => if c = ':' then .ok rest else .error (.on .expectedColon (c :: rest))

/-- Reads a key, which is a string. -/
def scanKey : Scan String := fun cs =>
  match cs with
  | '"' :: rest => StringLiteral.scan rest
  | _ => .error (.on .keyMustBeString cs)

/-- Reads a field behind those read so far. -/
def scanField (value : Scan Json) (fields : Fields) : Scan Fields := fun cs => do
  let (key, rest) ← scanKey cs
  let rest ← scanColon rest
  let (v, rest) ← value rest
  .ok (fields ++ [(key, v)], rest)

/-- Reads an item behind those read so far. -/
def scanItem (value : Scan Json) (items : List Json) : Scan (List Json) := fun cs => do
  let (v, rest) ← value cs
  .ok (items ++ [v], rest)

/-- Reads a value, given how to read the values inside it, if there may be any. -/
def scanForm (inner : Option (Scan Json)) : Scan Json := fun cs =>
  match skipBlank cs with
  | [] => .error (.on .endOfValue [])
  | c :: rest =>
    if c = 'n' then do
      let rest ← word ['u', 'l', 'l'] rest
      .ok (.null, rest)
    else if c = 't' then do
      let rest ← word ['r', 'u', 'e'] rest
      .ok (.bool true, rest)
    else if c = 'f' then do
      let rest ← word ['a', 'l', 's', 'e'] rest
      .ok (.bool false, rest)
    else if c = '"' then do
      let (text, rest) ← StringLiteral.scan rest
      .ok (.string text, rest)
    else if c = '-' || c.isDigit then do
      let (n, rest) ← scanNumber (c :: rest)
      .ok (.number n, rest)
    else if c = '[' then
      match inner with
      | none => .error (.on .tooDeep (c :: rest))
      | some value => do
        let (items, rest) ← elements .list (scanItem value) [] rest
        .ok (.array items, rest)
    else if c = '{' then
      match inner with
      | none => .error (.on .tooDeep (c :: rest))
      | some value => do
        let (fields, rest) ← elements .object (scanField value) [] rest
        .ok (.object fields, rest)
    else .error (.on .expectedValue (c :: rest))

/-- Reads a value in which arrays and objects stand inside one another no deeper than a bound. -/
def scanValue : Nat → Scan Json
  | 0 => scanForm none
  | depth + 1 => scanForm (some (scanValue depth))

/-- Reads a whole text as a document, repeated keys in place. -/
def parseTree (text : String) : Except Error Json := readAll (scanValue maxDepth) .ok text

/-- Reads a whole text as a document. -/
def parse (text : String) : Except Error Json := (parseTree text).map merged

end Json

end HostBoundary
