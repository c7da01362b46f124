-- SUMMARY: The one shape in which failures are reported to the host, and its diagnostic text.
import HostBoundary.Failure.Basic
import HostBoundary.Json.Writer
import HostBoundary.Error

/-!
# Reports

Every failure is unified into a report that carries the richest text there is: bare text becomes an
exception, an exception gets its stack for its message, and diagnostics and other values stay as
they are.
-/

namespace HostBoundary

/-- An object in compact form. -/
def Json.writeObject (fields : Fields) : List Char := '{' :: (writeFields fields ++ ['}'])

/-- A failure as it is reported to the host. -/
inductive Report where
  | exception (exception : Exception)
  | diagnostic (diagnostic : Diagnostic)
  | other (value : Json)

/-- The report of a failure. -/
def Failure.unify : Failure → Report
  | .text message => .exception (.ofMessage message)
  | .exception e => .exception e.foldStack
  | .diagnostic d => .diagnostic d
  | .other value => .other value

namespace Report

/-- The report of an untyped value. -/
def ofJson (value : Json) : Report := (Failure.ofJson value).unify

/-- The report of an untyped value; the sorting is reported as an event. -/
def trace (value : Json) : Traced Report := do return (← Failure.classify value).unify

/-- The report of a failure at the boundary. -/
def ofError (error : BoundaryError) : Report := .exception (.ofMessage error.message)

/-- The value that a report stands for. -/
def toJson : Report → Json
  | exception e => e.toJson
  | diagnostic d => d.toJson
  | other value => value

/-- A report in compact form. It is written as what it holds; nothing marks its sort. -/
def write : Report → List Char
  | exception e => Json.writeObject e.fields
  | diagnostic d => Json.writeObject d.fields
  | other value => value.write

/-- The text of a report: the message, else what the engine has rendered, else the value in compact
form. -/
def message (report : Report) : String :=
  match report.toJson with
  | .object fields =>
    match Json.textField? fields "message" with
    | some message => message
    | none =>
      match report with
      | diagnostic d => ((d.formatted?).bind Json.text?).getD report.toJson.toText
      | _ => report.toJson.toText
  | value => value.toText

/-- A report is shown as its text. -/
instance : ToString Report where
  toString := message

/-- Equality of reports, whatever the order of fields. -/
def same : Report → Report → Bool
  | exception a, exception b => a.toJson.same b.toJson
  | diagnostic a, diagnostic b => a.toJson.same b.toJson
  | other a, other b => a.same b
  | _, _ => false

end Report

end HostBoundary
