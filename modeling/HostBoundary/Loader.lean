-- SUMMARY: Loader references and loader options, and their written forms.
import HostBoundary.ItemOrList
import HostBoundary.Json.Record

/-!
# Loaders

A loader is referred to by a path, a query and a fragment; the three together are its identity. The
options of a loader may name files to include, one or a list of them.
-/

namespace HostBoundary

/-- A reference to a loader. -/
structure Loader where
  path : String := ""
  query : String := ""
  fragment : String := ""
  deriving DecidableEq, Repr

namespace Loader

/-- The identity of a loader. -/
def identity (loader : Loader) : String := loader.path ++ loader.query ++ loader.fragment

/-- The path must be there; query and fragment are empty if they are missing. -/
def format : Json.RecordFormat where
  title := "struct LoaderRequest"
  fields := [("path", true), ("query", false), ("fragment", false)]

/-- The loader whose fields were found. -/
def ofFields (found : Assoc String) : Loader where
  path := (found.get? "path").getD ""
  query := (found.get? "query").getD ""
  fragment := (found.get? "fragment").getD ""

/-- Reads a document. -/
def ofJson (doc : Json) : Except Json.Cause Loader :=
  (Json.recordOf format Json.textOf doc).map ofFields

/-- The written form of a loader. -/
def toJson (loader : Loader) : Json :=
  .object [("path", .string loader.path), ("query", .string loader.query),
    ("fragment", .string loader.fragment)]

/-- Reads a whole text. -/
def ofText (text : String) : Except Json.Error Loader :=
  Json.readAll (Json.scanRecord format Json.scanText) (fun found => .ok (ofFields found)) text

/-- Reads a whole text by way of the document that it denotes. -/
def ofDocumentText (text : String) : Except Json.Error Loader := do
  let doc ← Json.parse text
  match ofJson doc with
  | .ok loader => .ok loader
  | .error cause => .error ⟨cause, none⟩

/-- The codec of loaders. -/
def codec : Codec Loader where
  decode doc := (ofJson doc).toOption
  encode := toJson

end Loader

/-- The options of a loader. -/
structure LoaderOptions where
  /-- What to include, if anything is said about it. -/
  includes : Option (ItemOrList String) := none

namespace LoaderOptions

/-- The only field may be missing. -/
def format : Json.RecordFormat where
  title := "struct LoaderOptions"
  fields := [("include", false)]

/-- Reads what to include; null says nothing about it. -/
def scanIncludes : Json.FieldScan (Option (ItemOrList String)) := fun cs =>
  match Json.skipBlank cs with
  | 'n' :: rest => do
    let rest ← Json.word ['u', 'l', 'l'] rest
    .ok (.ok none, rest)
  | rest => do
    let (doc, rest) ← Json.scanValue (Json.maxDepth - 1) rest
    .ok ((ItemOrList.ofJson .text doc).map some, rest)

/-- Reads a whole text. -/
def ofText (text : String) : Except Json.Error LoaderOptions :=
  Json.readAll (Json.scanRecord format scanIncludes)
    (fun found => .ok { includes := (found.get? "include").join }) text

end LoaderOptions

end HostBoundary
