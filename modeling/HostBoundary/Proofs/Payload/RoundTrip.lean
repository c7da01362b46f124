-- SUMMARY: Structured payloads come back from their wire bytes up to a depth of 127, and what was read once crosses again without change.
import HostBoundary.Payload.Crossing
import HostBoundary.Proofs.Json.RoundTrip
import HostBoundary.Text.Utf8.RoundTrip

/-!
# Payloads there and back

A structured payload is sent in compact form. The receiver gets the same document if it is at most
127 levels deep and is told of the limit if it is deeper. A document that was itself read from text
or bytes is within the limit, so it can cross as often as one likes.
-/

namespace HostBoundary

namespace Payload

/-! ## One way -/

/-- A structured payload is sent as the compact form of its document. -/
theorem result_toWire_of_structured {p : Payload} {doc : Json} (h : p.structured? = some doc) :
    (toWire (some p)).run.result = .ok (some doc.toBytes) := by
  cases p with
  | undefined | null | text | bytes => cases h
  | bool | number | array | object =>
    cases h
    rfl

/-- The bytes of a compact text are read as that text. -/
theorem toDocument_toBytes (doc : Json) : toDocument (.bytes doc.toBytes) = readText doc.toText := by
  rw [toDocument, Json.toBytes, Utf8.decode_encode, Json.toText]

theorem result_readText_of_ok {text : String} {doc : Json} (h : Json.parse text = .ok doc) :
    (readText text).run.result = .ok doc := by
  rw [readText, h]
  rfl

theorem result_readText_of_error {text : String} {error : Json.Error}
    (h : Json.parse text = .error error) :
    (readText text).run.result = .error (.malformedPayload error.message) := by
  rw [readText, h]
  rfl

theorem parse_of_result_readText {text : String} {doc : Json}
    (h : (readText text).run.result = .ok doc) : Json.parse text = .ok doc := by
  cases hparse : Json.parse text with
  | ok found =>
    rw [result_readText_of_ok hparse] at h
    cases h
    rfl
  | error error =>
    rw [result_readText_of_error hparse] at h
    cases h

/-- The reader's words for a document that is too deep. -/
theorem message_tooDeep (place : Position) :
    Json.Error.message ⟨.tooDeep, some place⟩ = "recursion limit exceeded" ++
      (" at line " ++ toString place.line ++ " column " ++ toString place.column) := by
  have hwords : Json.Error.message ⟨.tooDeep, some place⟩ = "recursion limit exceeded" ++
      " at line " ++ toString place.line ++ " column " ++ toString place.column := rfl
  rw [hwords, String.append_assoc, String.append_assoc, String.append_assoc, String.append_assoc,
    String.append_assoc]

/-- A document whose depth is too great for the reader is reported with the reader's words. -/
theorem result_toDocument_of_lt {doc : Json} (h : doc.isIntegral) (hdepth : Json.maxDepth < doc.depth) :
    ∃ place, (toDocument (.bytes doc.toBytes)).run.result =
      .error (.malformedPayload ("recursion limit exceeded" ++ place)) := by
  obtain ⟨place, hparse⟩ := Json.parse_toText_of_lt h hdepth
  rw [toDocument_toBytes, result_readText_of_error hparse, message_tooDeep]
  exact ⟨_, rfl⟩

/-- A document within the limit comes back from its compact form. -/
theorem result_toDocument_of_le {doc : Json} (h : doc.isIntegral) (hmerged : doc.IsMerged)
    (hdepth : doc.depth ≤ Json.maxDepth) :
    (toDocument (.bytes doc.toBytes)).run.result = .ok doc := by
  rw [toDocument_toBytes]
  exact result_readText_of_ok (Json.parse_toText h hmerged hdepth)

/-! ## There and back -/

/-- A structured payload of integers is sent whatever its depth. It comes back as the same document
exactly if it is at most 127 levels deep; from there on it is reported for its depth. -/
theorem structured_crosses_back_iff {p : Payload} {doc : Json} (hp : p.structured? = some doc)
    (h : doc.isIntegral) (hmerged : doc.IsMerged) :
    (toWire (some p)).run.result = .ok (some doc.toBytes) ∧
      ((toDocument (.bytes doc.toBytes)).run.result = .ok doc ↔ doc.depth ≤ 127) ∧
      (128 ≤ doc.depth → ∃ place, (toDocument (.bytes doc.toBytes)).run.result =
        .error (.malformedPayload ("recursion limit exceeded" ++ place))) := by
  refine ⟨result_toWire_of_structured hp, ⟨?_, result_toDocument_of_le h hmerged⟩,
    result_toDocument_of_lt h⟩
  intro hback
  by_contra hdepth
  obtain ⟨place, herror⟩ := result_toDocument_of_lt h (Nat.not_le.mp hdepth)
  rw [herror] at hback
  cases hback

/-- A record with both ends of the integers, a nested record, escapes and an empty key. -/
def mixedFields : Fields :=
  [("z", .array [.number (.int (-0x8000000000000000) (by decide)),
      .number (.int 0xFFFFFFFFFFFFFFFF (by decide)), .null]),
    ("a\n\"", .object [("", .string "\x00\\☃"), ("b", .bool false)])]

/-- The mixed record is structured, holds integers only and repeats no key, and it comes back. -/
theorem mixedFields_cross_back :
    (Payload.object mixedFields).structured? = some (.object mixedFields) ∧
      (Json.object mixedFields).isIntegral ∧ (Json.object mixedFields).IsMerged ∧
      (toDocument (.bytes (Json.object mixedFields).toBytes)).run.result =
        .ok (.object mixedFields) := by
  have hmerged : (Json.object mixedFields).IsMerged :=
    ⟨by decide, ⟨trivial, trivial, trivial, trivial⟩, ⟨by decide, trivial, trivial, trivial⟩, trivial⟩
  have hback := structured_crosses_back_iff (p := .object mixedFields) rfl rfl hmerged
  exact ⟨rfl, rfl, hmerged, hback.2.1.mpr (by decide)⟩

/-- Once text or bytes are read as a document of integers that is structured, the document crosses
back and forth: it is sent, is read as the same document, and is sent again as the same bytes. -/
theorem read_document_crosses_unchanged {p : Payload} {doc : Json}
    (hp : (∃ content, p = .text content) ∨ ∃ content, p = .bytes content)
    (hread : (toDocument p).run.result = .ok doc) (h : doc.isIntegral)
    (hstructured : (ofJson doc).structured? = some doc) :
    ∃ wire again, (toWire (some (ofJson doc))).run.result = .ok (some wire) ∧
      (toDocument (.bytes wire)).run.result = .ok again ∧ again = doc ∧
      (toWire (some (ofJson again))).run.result = .ok (some wire) := by
  have hparse : ∃ text, Json.parse text = .ok doc := by
    rcases hp with ⟨content, rfl⟩ | ⟨content, rfl⟩
    · exact ⟨_, parse_of_result_readText hread⟩
    · exact ⟨_, parse_of_result_readText hread⟩
  obtain ⟨text, hparse⟩ := hparse
  have hdoc := Json.isMerged_and_depth_le_of_parse hparse
  have hsent := result_toWire_of_structured hstructured
  exact ⟨doc.toBytes, doc, hsent, result_toDocument_of_le h hdoc.1 hdoc.2, rfl, hsent⟩

/-- Bytes of a record with blanks, an escape, a repeated key and a byte that is no text. -/
def looseBytes : Bytes := utf8 "\x7b\"a\": 1,\n\"b\":2, \"a\": [ true, \"\\u0041" ++ 0xFF :: utf8 "\"] \x7d"

/-- The fields of that record as they are read. -/
def looseFields : Fields :=
  [("a", .array [.bool true, .string "A\uFFFD"]), ("b", .number (.int 2 (by decide)))]

/-- The loose bytes are read as a record, and that record crosses unchanged. -/
theorem looseBytes_cross_unchanged :
    (toDocument (.bytes looseBytes)).run.result = .ok (.object looseFields) ∧
      ∃ wire again, (toWire (some (ofJson (.object looseFields)))).run.result = .ok (some wire) ∧
        (toDocument (.bytes wire)).run.result = .ok again ∧ again = .object looseFields ∧
        (toWire (some (ofJson again))).run.result = .ok (some wire) := by
  have hread : (toDocument (.bytes looseBytes)).run.result = .ok (.object looseFields) :=
    Json.eq_ok_of_write rfl (by decide +kernel)
  exact ⟨hread, read_document_crosses_unchanged (.inr ⟨_, rfl⟩) hread rfl rfl⟩

end Payload

end HostBoundary
