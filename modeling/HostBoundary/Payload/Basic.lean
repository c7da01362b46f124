-- SUMMARY: Payloads: what the host can hand over, their kinds, and equality.
import HostBoundary.Json.Basic
import HostBoundary.Text.Utf8

/-!
# Payloads

A payload is whatever the host hands over: nothing, a scalar, text, raw bytes, or a structured
value. Kinds have names, by which a payload of the wrong kind is reported.
-/

namespace HostBoundary

/-- What the host hands over. -/
inductive Payload where
  | undefined
  | null
  | bool (value : Bool)
  | number (value : Number)
  | text (content : String)
  | bytes (content : Bytes)
  | array (items : List Json)
  | object (fields : Fields)

namespace Payload

/-- The name of the kind of a payload. -/
def kind : Payload → String
  | undefined => "undefined"
  | null => "null"
  | bool _ => "boolean"
  | number _ => "number"
  | text _ => "text"
  | bytes _ => "byte sequence"
  | array _ => "array"
  | object _ => "object"

/-- Whether there is nothing in a payload. -/
def isNil : Payload → Bool
  | undefined | null => true
  | _ => false

/-- A document as a payload. -/
def ofJson : Json → Payload
  | .null => null
  | .bool value => bool value
  | .number value => number value
  | .string content => text content
  | .array items => array items
  | .object fields => object fields

/-- The document that a payload is, if it is one: text stands for its own content and bytes and
undefined for none. -/
def structured? : Payload → Option Json
  | bool value => some (.bool value)
  | number value => some (.number value)
  | array items => some (.array items)
  | object fields => some (.object fields)
  | _ => none

/-- Equality of payloads, whatever the order of fields. -/
def same : Payload → Payload → Bool
  | undefined, undefined => true
  | null, null => true
  | bool a, bool b => a == b
  | number a, number b => a.same b
  | text a, text b => a == b
  | bytes a, bytes b => a == b
  | array as, array bs => (Json.array as).same (.array bs)
  | object as, object bs => (Json.object as).same (.object bs)
  | _, _ => false

end Payload

end HostBoundary
