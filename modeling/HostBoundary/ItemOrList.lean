-- SUMMARY: One item or a list of items: the type, its codec, and reading it from a text or from a document.
import HostBoundary.Json.Codec
import HostBoundary.Json.Reader

/-!
# One item or a list

Where a list of items is wanted, a single item will do. A document is read as a list if it is an
array of items, and as one item otherwise. Nothing in the written form tells the two apart.
-/

namespace HostBoundary

/-- One item, or a list of items. -/
inductive ItemOrList (α : Type) where
  | list (items : List α)
  | item (item : α)

namespace ItemOrList

variable {α : Type}

/-- The items, in order. -/
def toList : ItemOrList α → List α
  | list items => items
  | item x => [x]

/-- Reads a document, a list first. -/
def decode (codec : Codec α) (doc : Json) : Option (ItemOrList α) :=
  match codec.list.decode doc with
  | some items => some (list items)
  | none => (codec.decode doc).map item

/-- Writes the items; a single item is written as itself. -/
def encode (codec : Codec α) : ItemOrList α → Json
  | list items => codec.list.encode items
  | item x => codec.encode x

/-- The codec of items or lists of items. -/
def codec (codec : Codec α) : Codec (ItemOrList α) where
  decode := decode codec
  encode := encode codec

/-- The cause that is reported for a document that is neither an item nor a list of items. -/
def neither : Json.Cause := .noAlternative "OneOrMany"

/-- Reads a document, with a cause for a failure. -/
def ofJson (codec : Codec α) (doc : Json) : Except Json.Cause (ItemOrList α) :=
  match decode codec doc with
  | some x => .ok x
  | none => .error neither

/-- Reads a whole text. The tree of the text is decoded as it is, repeated keys in place. -/
def ofText (codec : Codec α) (text : String) : Except Json.Error (ItemOrList α) :=
  Json.readAll (Json.scanValue Json.maxDepth) (ofJson codec) text

/-- Reads a whole text by way of the document that it denotes. -/
def ofDocumentText (codec : Codec α) (text : String) : Except Json.Error (ItemOrList α) := do
  let doc ← Json.parse text
  match ofJson codec doc with
  | .ok x => .ok x
  | .error cause => .error ⟨cause, none⟩

end ItemOrList

end HostBoundary
