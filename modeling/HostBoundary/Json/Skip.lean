-- SUMMARY: Passing over a value that is of no interest.
import HostBoundary.Json.Literal
import HostBoundary.Json.StringLiteral
import HostBoundary.Json.Reader

/-!
# Passing over values

The value of an unknown field is passed over without being built. Only its outline is checked: there
is no bound on nesting, no number is too large, and halves of surrogate pairs are not matched up.
-/

namespace HostBoundary

namespace Json

/-- Passes over a number. The end of the text counts as a character that is no digit. -/
def skipNumber (cs : List Char) : Except Stop (List Char) := do
  let (_, rest) ← Literal.scan .invalidNumber cs
  .ok rest

/-- Passes over a key, its colon included, at a place where nothing but a key may stand. -/
def skipKey (cs : List Char) : Except Stop (List Char) :=
  match skipBlank cs with
  | [] => .error (.on .endOfObject [])
  | c :: rest =>
    if c = '"' then do
      let rest ← StringLiteral.skip rest
      scanColon rest
    else .error (.on .keyMustBeString (c :: rest))

/-- Passes over the rest of a text of which the given brackets are still open, the innermost first.
The flag says whether a value has just ended; if none has, a value comes next. Every turn reads a
character, so there are no more turns than the text has characters. -/
def skipOpen : Nat → Bool → List Bracket → List Char → Except Stop (List Char)
  | 0, _, _, cs => .error (.on .endOfValue cs)
  | _ + 1, true, [], cs => .ok cs
  | turns + 1, true, bracket :: outer, cs =>
    match skipBlank cs with
    | [] => .error (.on bracket.atEnd [])
    | c :: rest =>
      if c = bracket.closing then skipOpen turns true outer rest
      else if c = ',' then
        match bracket with
        | .list => skipOpen turns false (bracket :: outer) rest
        | .object => do
          let rest ← skipKey rest
          skipOpen turns false (bracket :: outer) rest
      else .error (.on bracket.between (c :: rest))
  | turns + 1, false, brackets, cs =>
    match skipBlank cs with
    | [] => .error (.on .endOfValue [])
    | c :: rest =>
      if c = 'n' then do
        let rest ← word ['u', 'l', 'l'] rest
        skipOpen turns true brackets rest
      else if c = 't' then do
        let rest ← word ['r', 'u', 'e'] rest
        skipOpen turns true brackets rest
      else if c = 'f' then do
        let rest ← word ['a', 'l', 's', 'e'] rest
        skipOpen turns true brackets rest
      else if c = '"' then do
        let rest ← StringLiteral.skip rest
        skipOpen turns true brackets rest
      else if c = '-' || c.isDigit then do
        let rest ← skipNumber (c :: rest)
        skipOpen turns true brackets rest
      else if c = '[' then
        match skipBlank rest with
        | [] => .error (.on .endOfList [])
        | ']' :: rest => skipOpen turns true brackets rest
        | rest => skipOpen turns false (.list :: brackets) rest
      else if c = '{' then
        match skipBlank rest with
        | '}' :: rest => skipOpen turns true brackets rest
        | rest => do
          let rest ← skipKey rest
          skipOpen turns false (.object :: brackets) rest
      else .error (.on .expectedValue (c :: rest))

/-- Passes over a value. -/
def skipValue (cs : List Char) : Except Stop (List Char) := skipOpen (cs.length + 1) false [] cs

end Json

end HostBoundary
