-- SUMMARY: Bringing payloads into one shape: bytes, a document, or optional wire bytes.
import HostBoundary.Payload.Basic
import HostBoundary.Json.Reader
import HostBoundary.Json.Writer
import HostBoundary.Trace.Event
import HostBoundary.Error

/-!
# Crossing the boundary

Each crossing accepts payloads of several kinds and makes one shape of them; content is re-encoded
and never changed. A payload of another kind is rejected by name, and text that is no document is
rejected with the reader's words. Each rejection is reported by one event.
-/

namespace HostBoundary

/-- A computation that may fail at the boundary and reports events. -/
abbrev Crossing (α : Type) := ExceptT BoundaryError Traced α

namespace Crossing

/-- Fails and reports an event. -/
def failWith {α : Type} (error : BoundaryError) (event : Event) : Crossing α :=
  ExceptT.mk { result := .error error, events := [event] }

end Crossing

namespace Payload

/-- The part of the program that the events of crossings name. -/
def target : String := "packhost_bridge::normalize"

/-- Rejects a payload for its kind. -/
def reject {α : Type} (expected : String) (received : Payload) : Crossing α :=
  Crossing.failWith (.unexpectedKind expected received.kind)
    { level := .debug
      target := target
      message := "rejected boundary value"
      details := [("expected", .quoted expected), ("received", .quoted received.kind)] }

/-- Rejects a text that is no document. -/
def rejectText {α : Type} (error : Json.Error) : Crossing α :=
  Crossing.failWith (.malformedPayload error.message)
    { level := .debug
      target := target
      message := "payload is not valid JSON"
      details := [("error", .plain error.message)] }

/-- Reads a text as a document. -/
def readText (text : String) : Crossing Json :=
  match Json.parse text with
  | .ok doc => pure doc
  | .error error => rejectText error

/-- Text or bytes as bytes. -/
def toBytes : Payload → Crossing Bytes
  | bytes content => pure content
  | text content => pure (utf8 content)
  | other => reject "byte sequence or text" other

/-- Text, bytes or a structured value as a document. Bytes are decoded leniently first. -/
def toDocument : Payload → Crossing Json
  | object fields => pure (.object fields)
  | array items => pure (.array items)
  | bytes content => readText (String.ofList (Utf8.decode content))
  | text content => readText content
  | other => reject "byte sequence, text, or object" other

/-- Text or a structured value as wire bytes. Nothing, and the empty text, become no bytes at all;
other text is sent as it is and a structured value in compact form. -/
def toWire : Option Payload → Crossing (Option Bytes)
  | none | some undefined | some null | some (text "") => pure none
  | some (text content) => pure (some (utf8 content))
  | some (bytes content) => reject "text or object" (bytes content)
  | some (bool value) => pure (some (Json.bool value).toBytes)
  | some (number value) => pure (some (Json.number value).toBytes)
  | some (array items) => pure (some (Json.array items).toBytes)
  | some (object fields) => pure (some (Json.object fields).toBytes)

end Payload

end HostBoundary
