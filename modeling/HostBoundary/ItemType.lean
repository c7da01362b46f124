-- SUMMARY: The types of items that cross the boundary alone or in lists, each with its values and its codec.
import HostBoundary.Loader
import HostBoundary.Failure.Basic

/-!
# Types of items

The items of an item-or-list are of one of these types.
-/

namespace HostBoundary

/-- A type of items. -/
inductive ItemType where
  | text
  | int64
  | byte
  | float
  | bool
  | json
  | texts
  | optionalText
  | loader
  | textOrTexts
  | exception
  deriving DecidableEq, Repr

namespace ItemType

/-- The values of a type of items. -/
abbrev Value : ItemType → Type
  | text => String
  | int64 => Int64
  | byte => UInt8
  | float => Float
  | bool => Bool
  | json => Json
  | texts => List String
  | optionalText => Option String
  | loader => Loader
  | textOrTexts => ItemOrList String
  | exception => Exception

/-- The codec of exceptions: objects, repeated keys merged. -/
def exceptionCodec : Codec Exception where
  decode
    | .object fields => some ⟨Assoc.ofList (Json.mergedFields fields)⟩
    | _ => none
  encode := Exception.toJson

/-- The codec of a type of items. -/
def codec : (type : ItemType) → Codec type.Value
  | text => .text
  | int64 => .int64
  | byte => .byte
  | float => .float
  | bool => .bool
  | json => .json
  | texts => .list .text
  | optionalText => .optional .text
  | loader => Loader.codec
  | textOrTexts => ItemOrList.codec .text
  | exception => exceptionCodec

end ItemType

end HostBoundary
