-- SUMMARY: Records: objects or arrays with a fixed set of fields, read from a text or from a document.
import HostBoundary.Json.Skip
import HostBoundary.Json.Writer
import HostBoundary.Text.Quoted

/-!
# Records

A record has named fields, some of which must be there. It is written as an object, whose unknown
fields are ignored, or as an array of the fields in their order, of which the last may be missing.
Read from a text, a fault of form is reported with a place; read from a document it has none.
-/

namespace HostBoundary

namespace Json

/-- The fields of a record: their names, and whether they must be there. -/
structure RecordFormat where
  /-- What the record is called where something else was found. -/
  title : String
  fields : List (String × Bool)

namespace RecordFormat

/-- Whether the record has a field of a name. -/
def knows (format : RecordFormat) (key : String) : Bool := format.fields.any (·.1 == key)

/-- What is wrong with the fields found in an object, if one is missing that must be there. -/
def missing? {α : Type} (format : RecordFormat) (found : Assoc α) : Option Cause :=
  (format.fields.find? fun f => f.2 && !found.contains f.1).map fun f => .missingField f.1

/-- What is wrong with an array that ends before the given fields, if one of them must be there. -/
def tooShort? (format : RecordFormat) (count : Nat) (left : List (String × Bool)) :
    Option Cause :=
  if left.any (·.2) then
    some (.wrongLength count
      (format.title ++ " with " ++ toString format.fields.length ++ " elements"))
  else none

end RecordFormat

/-- The outer form of a document. -/
def form : Json → Form
  | null => .null
  | bool value => .bool value
  | number (.int n _) => .integer n
  | number (.float x) => .float (String.ofList (floatLayout.float x))
  | string text => .string (Quoted.write text)
  | array _ => .sequence
  | object _ => .map

/-- The cause that is reported where another form was wanted. -/
def wrongForm (found : Json) (expected : String) : Cause := .wrongForm found.form expected

/-! ## Reading from a document -/

/-- Reads the fields of an object, in the order in which they stand in it. -/
def recordOfFields {α : Type} (format : RecordFormat) (value : Json → Except Cause α) :
    Assoc α → List (String × Json) → Except Cause (Assoc α)
  | found, [] =>
    match format.missing? found with
    | some cause => .error cause
    | none => .ok found
  | found, (key, doc) :: rest =>
    if !format.knows key then recordOfFields format value found rest
    else if found.contains key then .error (.duplicateField key)
    else do
      let v ← value doc
      recordOfFields format value (found ++ [(key, v)]) rest

/-- Reads the items of an array as the fields of a record. -/
def recordOfItems {α : Type} (format : RecordFormat) (value : Json → Except Cause α)
    (count : Nat) : Assoc α → List (String × Bool) → List Json → Except Cause (Assoc α)
  | found, [], [] => .ok found
  | _, [], _ :: _ => .error (.wrongLength count "fewer elements in array")
  | found, left, [] =>
    match format.tooShort? found.length left with
    | some cause => .error cause
    | none => .ok found
  | found, (key, _) :: left, doc :: rest => do
    let v ← value doc
    recordOfItems format value count (found ++ [(key, v)]) left rest

/-- Reads a document as a record. -/
def recordOf {α : Type} (format : RecordFormat) (value : Json → Except Cause α) :
    Json → Except Cause (Assoc α)
  | object fields => recordOfFields format value [] fields
  | array items => recordOfItems format value items.length [] format.fields items
  | doc => .error (wrongForm doc format.title)

/-! ## Reading from a text -/

/-- Leaves a bracketed sequence for a cause that has no place yet. The end of the sequence is looked
for first: blanks, and the closing bracket or, in an array, a comma and more blanks, count as
read. -/
def giveUp (bracket : Bracket) (cause : Cause) (cs : List Char) : Stop :=
  match skipBlank cs with
  | [] => .before cause []
  | c :: rest =>
    if c = bracket.closing then .before cause rest
    else if c = ',' ∧ bracket = .list then .before cause (skipBlank rest)
    else .before cause (c :: rest)

/-- Reads the value of a field of a record; what is wrong with its form has no place yet. -/
abbrev FieldScan (α : Type) := Scan (Except Cause α)

/-- Reads a field of an object behind those found so far. -/
def scanRecordField {α : Type} (format : RecordFormat) (value : FieldScan α) (found : Assoc α) :
    Scan (Assoc α) := fun cs => do
  let (key, rest) ← scanKey cs
  if !format.knows key then
    let rest ← scanColon rest
    let rest ← skipValue rest
    .ok (found, rest)
  else if found.contains key then .error (giveUp .object (.duplicateField key) rest)
  else
    let rest ← scanColon rest
    match ← value rest with
    | (.error cause, rest) => .error (giveUp .object cause rest)
    | (.ok v, rest) => .ok (found ++ [(key, v)], rest)

/-- Reads the end of an array that has no more items than the record has fields. -/
def scanArrayEnd {α : Type} (found : α) : Scan α := fun cs =>
  match skipBlank cs with
  | [] => .error (.on .endOfList [])
  | ']' :: rest => .ok (found, rest)
  | ',' :: rest =>
    match skipBlank rest with
    | ']' :: rest' => .error (.on .trailingComma (']' :: rest'))
    | rest' => .error (.on .trailingCharacters rest')
  | rest => .error (.on .trailingCharacters rest)

/-- Reads the comma between two items of an array, if there must be one. -/
def scanComma (isFirst : Bool) (cs : List Char) : Except Stop (List Char) :=
  match skipBlank cs with
  | [] => .error (.on .endOfList [])
  | c :: rest =>
    if isFirst then .ok (c :: rest)
    else if c = ',' then
      match skipBlank rest with
      | [] => .error (.on .endOfValue [])
      | ']' :: rest' => .error (.on .trailingComma (']' :: rest'))
      | rest' => .ok rest'
    else .error (.on .expectedListCommaOrEnd (c :: rest))

/-- Reads the items of an array as the fields of a record, from after those found so far. -/
def scanRecordItems {α : Type} (format : RecordFormat) (value : FieldScan α) :
    List (String × Bool) → Assoc α → Scan (Assoc α)
  | [], found, cs => scanArrayEnd found cs
  | (key, must) :: left, found, cs =>
    match skipBlank cs with
    | ']' :: rest =>
      match format.tooShort? found.length ((key, must) :: left) with
      | some cause => .error (.before cause rest)
      | none => .ok (found, rest)
    | rest => do
      let rest ← scanComma found.isEmpty rest
      match ← value rest with
      | (.error cause, rest) => .error (giveUp .list cause rest)
      | (.ok v, rest) => scanRecordItems format value left (found ++ [(key, v)]) rest

/-- Reads a value whose form is not the wanted one, to report what it is. Of an array or an object
only the opening bracket is looked at, and it does not count as read. -/
def scanWrongForm {α : Type} (expected : String) : Scan α := fun cs =>
  match skipBlank cs with
  | '[' :: rest => .error (.before (.wrongForm .sequence expected) ('[' :: rest))
  | '{' :: rest => .error (.before (.wrongForm .map expected) ('{' :: rest))
  | rest => do
    let (doc, left) ← scanForm none rest
    .error (.before (wrongForm doc expected) left)

/-- Reads a text as a record. -/
def scanRecord {α : Type} (format : RecordFormat) (value : FieldScan α) : Scan (Assoc α) := fun cs =>
  match skipBlank cs with
  | '[' :: rest => scanRecordItems format value format.fields [] rest
  | '{' :: rest => do
    let (found, rest) ← elements .object (scanRecordField format value) [] rest
    match format.missing? found with
    | some cause => .error (.before cause rest)
    | none => .ok (found, rest)
  | rest => scanWrongForm format.title rest

/-- Reads a text as an object, repeated keys in place. -/
def scanFields : Scan Fields := fun cs =>
  match skipBlank cs with
  | '{' :: rest => elements .object (scanField (scanValue (maxDepth - 1))) [] rest
  | rest => scanWrongForm "a map" rest

/-- Reads a string as the value of a field. -/
def scanText : FieldScan String := fun cs =>
  match skipBlank cs with
  | '"' :: rest => do
    let (text, rest) ← StringLiteral.scan rest
    .ok (.ok text, rest)
  | rest => scanWrongForm "a string" rest

/-- Reads a whole text as the fields of an object, repeated keys merged. -/
def parseFields (text : String) : Except Error Fields :=
  readAll scanFields (fun fields => .ok (Assoc.ofList (mergedFields fields))) text

/-- A document as a text. -/
def textOf : Json → Except Cause String
  | string text => .ok text
  | doc => .error (wrongForm doc "a string")

/-- A document as the fields of an object. -/
def fieldsOf : Json → Except Cause Fields
  | object fields => .ok fields
  | doc => .error (wrongForm doc "a map")

end Json

end HostBoundary
