-- SUMMARY: Codecs between documents and typed values: texts, integers of fixed width, floats, flags, documents, lists and optional values.
import HostBoundary.Json.Basic

/-!
# Codecs

A codec reads a document as a typed value, if it can, and writes the value as a document. It reads
trees in which keys may still repeat, and merges them where documents or fields are wanted.
-/

namespace HostBoundary

/-- How values of a type are read from documents and written as documents. -/
structure Codec (α : Type) where
  decode : Json → Option α
  encode : α → Json

namespace Codec

variable {α : Type}

/-- Texts. -/
def text : Codec String where
  decode := Json.text?
  encode := .string

/-- Flags. -/
def bool : Codec Bool where
  decode
    | .bool value => some value
    | _ => none
  encode := .bool

/-- A signed 64-bit integer as a number. -/
def ofInt64 (n : Int64) : Number :=
  .int n.toInt ⟨Int64.le_toInt n, Int.lt_trans (Int64.toInt_lt n) (by decide)⟩

/-- Signed 64-bit integers. -/
def int64 : Codec Int64 where
  decode
    | .number (.int n _) =>
      if -0x8000000000000000 ≤ n ∧ n < 0x8000000000000000 then some (Int64.ofInt n) else none
    | _ => none
  encode n := .number (ofInt64 n)

/-- A byte as a number. -/
def ofByte (n : UInt8) : Number :=
  .int n.toNat ⟨by omega, by have := n.toNat_lt; omega⟩

/-- Unsigned 8-bit integers. -/
def byte : Codec UInt8 where
  decode
    | .number (.int n _) => if 0 ≤ n ∧ n < 0x100 then some (UInt8.ofNat n.toNat) else none
    | _ => none
  encode n := .number (ofByte n)

/-- Floats. An integer is read as the nearest float. -/
def float : Codec Float where
  decode
    | .number n => some n.toFloat
    | _ => none
  encode x := .number (.float x)

/-- Documents. -/
def json : Codec Json where
  decode doc := some doc.merged
  encode doc := doc

/-- Lists of values. -/
def list (codec : Codec α) : Codec (List α) where
  decode
    | .array items => items.mapM codec.decode
    | _ => none
  encode xs := .array (xs.map codec.encode)

/-- Optional values; null stands for none. -/
def optional (codec : Codec α) : Codec (Option α) where
  decode
    | .null => some none
    | doc => (codec.decode doc).map some
  encode
    | none => .null
    | some x => codec.encode x

end Codec

end HostBoundary
