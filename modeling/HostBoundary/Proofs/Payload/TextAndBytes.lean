-- SUMMARY: Text and its bytes are the same payload: they are read alike, rejected alike and sent alike, and repaired bytes need no second repair.
import HostBoundary.Payload.Crossing
import HostBoundary.Text.Utf8.RoundTrip

/-!
# Text and bytes

Text crosses as its UTF-8 form. The receiver makes the same of it as of the text: the same document, or the
same rejection with the same words, line and column, and the same event. Bytes that are no text are repaired
before they are read, and what they are repaired to is a text. So sending the repaired form changes nothing.
-/

namespace HostBoundary

namespace Payload

/-- Decoding finds the text again, so it is the text that is read. -/
theorem toDocument_utf8 (content : String) :
    toDocument (.bytes (utf8 content)) = toDocument (.text content) := by
  rw [toDocument, toDocument, utf8, Utf8.decode_encode, String.ofList_toList]

/-- There is nothing left to repair in what was repaired. -/
theorem toDocument_encode_decode (raw : Bytes) :
    toDocument (.bytes (Utf8.encode (Utf8.decode raw))) = toDocument (.bytes raw) := by
  rw [toDocument, toDocument, Utf8.decode_encode]

/-- Only the empty text is sent as no bytes at all. -/
theorem toWire_text {content : String} (h : content ≠ "") :
    toWire (some (.text content)) = pure (some (utf8 content)) := by
  rw [toWire]
  exact h

/-- A text has bytes that are read as the text is, and they are also what is sent, unless the text is empty.
Bytes are their own bytes, and their repaired form is read as they are. Alike means that the documents are
the same, or else the errors with all their words, and the events. -/
theorem text_and_bytes_cross_alike :
    (∀ content, ∃ bytes, toBytes (.text content) = pure bytes ∧
        toDocument (.bytes bytes) = toDocument (.text content) ∧
        (content ≠ "" → toWire (some (.text content)) = pure (some bytes))) ∧
      ∀ raw, (∃ bytes, toBytes (.bytes raw) = pure bytes ∧
          toDocument (.bytes bytes) = toDocument (.bytes raw)) ∧
        toDocument (.bytes (Utf8.encode (Utf8.decode raw))) = toDocument (.bytes raw) := by
  refine ⟨fun content => ?_, fun raw => ⟨⟨raw, rfl, rfl⟩, toDocument_encode_decode raw⟩⟩
  exact ⟨utf8 content, rfl, toDocument_utf8 content, toWire_text⟩

end Payload

end HostBoundary
