-- SUMMARY: What reading a document needs throughout: causes of failure and their texts, the place where reading stopped, blanks and fixed words.
import HostBoundary.Text.Position

/-!
# Scanning

A scanner takes the characters of a text that are still to be read and gives what it found and
the characters it left. Where it cannot go on it stops: a `Stop` holds the cause, the text from
that place on, and how many bytes of that text already count as read. The place is worked out
from the whole text only when the stop is reported.
-/

namespace HostBoundary

namespace Json

/-! ## Causes -/

/-- The outer form of a document, as it is named when another form was wanted. -/
inductive Form where
  | null
  | bool (value : Bool)
  | integer (value : Int)
  | float (text : String)
  | string (quoted : String)
  | sequence
  | map

namespace Form

/-- The name of a form. -/
def text : Form → String
  | .null => "null"
  | .bool value => "boolean `" ++ toString value ++ "`"
  | .integer value => "integer `" ++ toString value ++ "`"
  | .float text => "floating point `" ++ text ++ "`"
  | .string quoted => "string " ++ quoted
  | .sequence => "sequence"
  | .map => "map"

end Form

/-- Why a text is not a document, or a document not what was wanted. -/
inductive Cause where
  | endOfValue
  | endOfString
  | endOfList
  | endOfObject
  | expectedValue
  | expectedWord
  | expectedColon
  | expectedListCommaOrEnd
  | expectedObjectCommaOrEnd
  | keyMustBeString
  | invalidNumber
  | numberOutOfRange
  | controlCharacter
  | invalidEscape
  | loneSurrogate
  | endOfHexEscape
  | trailingComma
  | trailingCharacters
  | tooDeep
  | wrongForm (found : Form) (expected : String)
  | wrongLength (found : Nat) (expected : String)
  | missingField (name : String)
  | duplicateField (name : String)
  | noAlternative (type : String)

namespace Cause

/-- The text of a cause, without its place. -/
def text : Cause → String
  | endOfValue => "EOF while parsing a value"
  | endOfString => "EOF while parsing a string"
  | endOfList => "EOF while parsing a list"
  | endOfObject => "EOF while parsing an object"
  | expectedValue => "expected value"
  | expectedWord => "expected ident"
  | expectedColon => "expected `:`"
  | expectedListCommaOrEnd => "expected `,` or `]`"
  | expectedObjectCommaOrEnd => "expected `,` or `\x7d`"
  | keyMustBeString => "key must be a string"
  | invalidNumber => "invalid number"
  | numberOutOfRange => "number out of range"
  | controlCharacter => "control character (\\u0000-\\u001F) found while parsing a string"
  | invalidEscape => "invalid escape"
  | loneSurrogate => "lone leading surrogate in hex escape"
  | endOfHexEscape => "unexpected end of hex escape"
  | trailingComma => "trailing comma"
  | trailingCharacters => "trailing characters"
  | tooDeep => "recursion limit exceeded"
  | wrongForm found expected => "invalid type: " ++ found.text ++ ", expected " ++ expected
  | wrongLength found expected => "invalid length " ++ toString found ++ ", expected " ++ expected
  | missingField name => "missing field `" ++ name ++ "`"
  | duplicateField name => "duplicate field `" ++ name ++ "`"
  | noAlternative type => "data did not match any variant of untagged enum " ++ type

end Cause

/-- A failure to read a document: its cause, and its place if it has one. -/
structure Error where
  cause : Cause
  place? : Option Position

namespace Error

/-- The text of a failure. -/
def message (e : Error) : String :=
  match e.place? with
  | none => e.cause.text
  | some place =>
    e.cause.text ++ " at line " ++ toString place.line ++ " column " ++ toString place.column

end Error

/-! ## Stops -/

/-- Where reading stopped: the text from there on, and how many bytes of it count as read. -/
structure Stop where
  cause : Cause
  rest : List Char
  ahead : Nat

namespace Stop

/-- Stops on the next byte, which counts as read if there is one. -/
def on (cause : Cause) (rest : List Char) : Stop where
  cause := cause
  rest := rest
  ahead := if rest.isEmpty then 0 else 1

/-- Stops before the next byte. -/
def before (cause : Cause) (rest : List Char) : Stop where
  cause := cause
  rest := rest
  ahead := 0

/-- The failure that is reported for a stop in a text. -/
def toError (stop : Stop) (text : List Char) : Error where
  cause := stop.cause
  place? :=
    some (.after ((Utf8.encode text).take (Utf8.length text - Utf8.length stop.rest + stop.ahead)))

end Stop

/-- A reader of the beginning of a text. -/
abbrev Scan (α : Type) := List Char → Except Stop (α × List Char)

/-! ## Blanks and words -/

/-- The blank characters between the parts of a document. -/
def isBlank (c : Char) : Bool := c == ' ' || c == '\n' || c == '\t' || c == '\r'

/-- The text from the next character on that is not blank. -/
def skipBlank (cs : List Char) : List Char := cs.dropWhile isBlank

/-- Reads the given characters and nothing else. -/
def word : List Char → List Char → Except Stop (List Char)
  | [], cs => .ok cs
  | _ :: _, [] => .error (.on .endOfValue [])
  | e :: es, c :: cs => if e = c then word es cs else .error (.on .expectedWord (c :: cs))

/-! ## Bracketed sequences -/

/-- The two kinds of brackets, with what is reported where a sequence does not go on. -/
inductive Bracket where
  | list
  | object
  deriving DecidableEq

namespace Bracket

/-- The closing bracket. -/
def closing : Bracket → Char
  | list => ']'
  | object => '}'

/-- The cause where the text ends inside the brackets. -/
def atEnd : Bracket → Cause
  | list => .endOfList
  | object => .endOfObject

/-- The cause where neither a comma nor the closing bracket follows. -/
def between : Bracket → Cause
  | list => .expectedListCommaOrEnd
  | object => .expectedObjectCommaOrEnd

end Bracket

/-- Goes on after an element of a bracketed sequence. Every turn reads a comma, so a sequence
takes no more turns than its text has characters. -/
def moreElements {σ : Type} (bracket : Bracket) (element : σ → Scan σ) : Nat → σ → Scan σ
  | 0, _, cs => .error (.on bracket.atEnd cs)
  | turns + 1, state, cs =>
    match skipBlank cs with
    | [] => .error (.on bracket.atEnd [])
    | c :: rest =>
      if c = bracket.closing then .ok (state, rest)
      else if c = ',' then
        match skipBlank rest with
        | [] => .error (.on .endOfValue [])
        | d :: rest' =>
          if d = bracket.closing then .error (.on .trailingComma (d :: rest'))
          else do
            let (next, left) ← element state (d :: rest')
            moreElements bracket element turns next left
      else .error (.on bracket.between (c :: rest))

/-- Reads a bracketed sequence from after its opening bracket to after its closing one, passing a
state through its elements. -/
def elements {σ : Type} (bracket : Bracket) (element : σ → Scan σ) (state : σ) : Scan σ := fun cs =>
  match skipBlank cs with
  | [] => .error (.on bracket.atEnd [])
  | c :: rest =>
    if c = bracket.closing then .ok (state, rest)
    else do
      let (next, left) ← element state (c :: rest)
      moreElements bracket element (left.length + 1) next left

/-! ## Whole texts -/

/-- Reads a whole text: what the scanner finds is finished, and only blanks may follow it. A cause
found in finishing has no place. -/
def readAll {α β : Type} (scan : Scan α) (finish : α → Except Cause β) (text : String) :
    Except Error β :=
  match scan text.toList with
  | .error stop => .error (stop.toError text.toList)
  | .ok (found, rest) =>
    match finish found with
    | .error cause => .error ⟨cause, none⟩
    | .ok result =>
      match skipBlank rest with
      | [] => .ok result
      | left => .error ((Stop.on .trailingCharacters left).toError text.toList)

end Json

end HostBoundary
