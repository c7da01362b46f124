-- SUMMARY: Failure values: host exceptions, engine diagnostics, and the sorting of an untyped value by its fields.
import HostBoundary.Json.Basic
import HostBoundary.Trace.Event

/-!
# Failures

A failure reaches the boundary as an untyped value, and its fields say where it comes from. Text is
a bare message. An object with a stack is an exception raised by the host. Any other object with
a truthy rendered form is a diagnostic of the engine. Everything else is passed through. What the
fields hold is kept as it came, in its order.
-/

namespace HostBoundary

namespace Json

/-- Whether a value counts as true for the host: not null, not false, not a zero, not what is no
number, and not the empty text. -/
def isTruthy : Json → Bool
  | null => false
  | bool value => value
  | number n => n.toFloat != 0.0 && !n.toFloat.isNaN
  | string text => text != ""
  | array _ | object _ => true

/-- The text under a key, if there is one. -/
def textField? (fields : Fields) (key : String) : Option String := (fields.get? key).bind text?

end Json

/-! ## Exceptions -/

/-- An exception raised by the host, with every field that the host sent. -/
structure Exception where
  fields : Fields

namespace Exception

/-- The name of an exception that does not have one. -/
def defaultName : String := "Error"

/-- An exception that has a message only. -/
def ofMessage (message : String) : Exception where
  fields := [("name", .string defaultName), ("message", .string message)]

/-- The name of an exception. -/
def name (e : Exception) : String := (Json.textField? e.fields "name").getD defaultName

/-- The message of an exception, if it is a text. -/
def message? (e : Exception) : Option String := Json.textField? e.fields "message"

/-- The stack of an exception, if it is a text. -/
def stack? (e : Exception) : Option String := Json.textField? e.fields "stack"

/-- The exception with another stack. -/
def withStack (e : Exception) (stack : String) : Exception where
  fields := e.fields.insert "stack" (.string stack)

/-- Puts the stack in the place of the message, unless the stack is empty or no text. A stack begins
with the message, so nothing is lost. -/
def foldStack (e : Exception) : Exception :=
  match e.stack? with
  | none | some "" => e
  | some stack => { fields := e.fields.insert "message" (.string stack) }

/-- The exception as a document. -/
def toJson (e : Exception) : Json := .object e.fields

end Exception

/-! ## Diagnostics -/

/-- A diagnostic that the engine has rendered, as it was received. -/
structure Diagnostic where
  fields : Fields

namespace Diagnostic

/-- A field of a diagnostic, if it is a text. -/
def text? (d : Diagnostic) (key : String) : Option String := Json.textField? d.fields key

/-- The rendered form, of whatever type it is. -/
def formatted? (d : Diagnostic) : Option Json := d.fields.get? "formatted"

/-- The diagnostic as a document. -/
def toJson (d : Diagnostic) : Json := .object d.fields

end Diagnostic

/-! ## Sorting -/

/-- A failure, sorted by where it comes from. -/
inductive Failure where
  | text (message : String)
  | exception (exception : Exception)
  | diagnostic (diagnostic : Diagnostic)
  | other (value : Json)

namespace Failure

/-- Whether the fields are those of a rendered diagnostic and not of an exception. -/
def isRendered (value : Json) : Bool :=
  match value with
  | .object fields =>
    !Assoc.contains fields "stack" && (Assoc.get? fields "formatted").any Json.isTruthy
  | _ => false

/-- Sorts a value by its fields. -/
def ofJson : Json → Failure
  | .string message => .text message
  | .object fields =>
    if Assoc.contains fields "stack" then .exception ⟨fields⟩
    else if (Assoc.get? fields "formatted").any Json.isTruthy then .diagnostic ⟨fields⟩
    else .other (.object fields)
  | value => .other value

/-- The name of the sort of a failure. -/
def sort : Failure → String
  | text _ => "text"
  | exception _ => "exception"
  | diagnostic _ => "engine"
  | other _ => "opaque"

/-- Sorts a value by its fields and reports the outcome. -/
def classify (value : Json) : Traced Failure := do
  let failure := ofJson value
  Traced.report
    { level := .trace
      target := "packhost_bridge::failure"
      message := "classified failure"
      details := [("variant", .quoted failure.sort)] }
  return failure

/-- Equality of failures, whatever the order of fields. -/
def same : Failure → Failure → Bool
  | text a, text b => a == b
  | exception a, exception b => a.toJson.same b.toJson
  | diagnostic a, diagnostic b => a.toJson.same b.toJson
  | other a, other b => a.same b
  | _, _ => false

end Failure

end HostBoundary
