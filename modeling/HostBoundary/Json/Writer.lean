-- SUMMARY: Writing documents: the compact form.
import HostBoundary.Json.Basic
import HostBoundary.Json.StringLiteral
import HostBoundary.Decimal.Shortest

/-!
# Writing documents

The compact form has no blanks. Fields are written in their order. There is no bound on nesting.
-/

namespace HostBoundary

namespace Json

/-- Floats have no exponent from 0.00001 on to below ten to the sixteenth, and then a point. -/
def floatLayout : Decimal.Layout where
  plainFrom := -5
  plainTo := 15
  wholeEnd := ['.', '0']
  exponentMark := (['e', '+'], ['e', '-'])
  notFinite := ['n', 'u', 'l', 'l']

/-- A number as it is written. -/
def writeNumber : Number → List Char
  | .int n _ => Decimal.integer n
  | .float x => floatLayout.float x

mutual

/-- A document in compact form. -/
def write : Json → List Char
  | null => ['n', 'u', 'l', 'l']
  | bool true => ['t', 'r', 'u', 'e']
  | bool false => ['f', 'a', 'l', 's', 'e']
  | number n => writeNumber n
  | string text => StringLiteral.write text
  | array items => '[' :: (writeItems items ++ [']'])
  | object fields => '{' :: (writeFields fields ++ ['}'])

/-- Items with commas between them. -/
def writeItems : List Json → List Char
  | [] => []
  | [item] => write item
  | item :: rest => write item ++ ',' :: writeItems rest

/-- Fields with commas between them. -/
def writeFields : List (String × Json) → List Char
  | [] => []
  | [(key, value)] => StringLiteral.write key ++ ':' :: write value
  | (key, value) :: rest => StringLiteral.write key ++ ':' :: (write value ++ ',' :: writeFields rest)

end

/-- The compact form as a text. -/
def toText (doc : Json) : String := String.ofList doc.write

/-- The compact form as bytes. -/
def toBytes (doc : Json) : Bytes := Utf8.encode doc.write

end Json

end HostBoundary
