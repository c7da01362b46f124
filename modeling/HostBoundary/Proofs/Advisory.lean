-- SUMMARY: What an advisory leaves in a sink that may fail, and the content that can be read from it again.
import HostBoundary.Advisory
import HostBoundary.Text.Utf8.RoundTrip

/-!
# Advisories in a sink

Pieces that are written one by one fill a sink as far as they would in one piece: what it takes is the front
of their sequence, and the writing fails exactly if that is not all. So a sink that fails cuts an advisory off
at its room. A complete one tells its content: with colour, the starts of the style and the ends of all styles
are where the emphasis put them.
-/

namespace HostBoundary

/-! ## Pieces in a sink -/

namespace Sink

theorem writeAll_boundless (taken : Bytes) (pieces : List Bytes) :
    writeAll { taken := taken } pieces = ({ taken := taken ++ pieces.flatten }, true) := by
  induction pieces generalizing taken with
  | nil => simp [writeAll]
  | cons piece rest ih =>
    rw [writeAll, write]
    simp only
    rw [ih, List.flatten_cons, List.append_assoc]

/-- A piece for which there is room is followed by the rest; any other piece is cut off and is the last. -/
theorem writeAll_cons_bounded (taken : Bytes) (room : Nat) (piece : Bytes) (rest : List Bytes) :
    writeAll { taken := taken, room := some room } (piece :: rest) =
      if piece.length ≤ room then
        writeAll { taken := taken ++ piece, room := some (room - piece.length) } rest
      else ({ taken := taken ++ piece.take room, room := some 0 }, false) := by
  rw [writeAll, write]
  by_cases h : piece.length ≤ room
  · simp only [h, decide_true, if_true, List.take_of_length_le h]
  · have hfull : room - piece.length = 0 := by omega
    simp only [h, decide_false, if_false, hfull]

theorem writeAll_bounded (taken : Bytes) (room : Nat) (pieces : List Bytes) :
    writeAll { taken := taken, room := some room } pieces =
      ({ taken := taken ++ pieces.flatten.take room, room := some (room - pieces.flatten.length) },
        decide (pieces.flatten.length ≤ room)) := by
  induction pieces generalizing taken room with
  | nil => simp [writeAll]
  | cons piece rest ih =>
    rw [writeAll_cons_bounded, List.flatten_cons, List.length_append]
    by_cases h : piece.length ≤ room
    · have htake : (piece ++ rest.flatten).take room = piece ++ rest.flatten.take (room - piece.length) := by
        rw [List.take_append, List.take_of_length_le h]
      have hfits : piece.length + rest.flatten.length ≤ room ↔ rest.flatten.length ≤ room - piece.length := by
        omega
      rw [if_pos h, ih, htake, ← List.append_assoc, Nat.sub_sub]
      simp only [hfits]
    · have htake : (piece ++ rest.flatten).take room = piece.take room :=
        List.take_append_of_le_length (by omega)
      have hfull : room - (piece.length + rest.flatten.length) = 0 := by omega
      have hlong : ¬ piece.length + rest.flatten.length ≤ room := by omega
      rw [if_neg h, htake, hfull]
      simp only [hlong, decide_false]

end Sink

namespace Advisory

/-! ## Complete and cut off -/

theorem result_writeTo (sink : Sink) (colour : Bool) (content : String) :
    (writeTo sink colour true content).result = sink.writeAll ((pieces colour content).map Utf8.encode) := rfl

theorem flatten_encode_pieces (colour : Bool) (content : String) :
    ((pieces colour content).map Utf8.encode).flatten = Utf8.encode (text colour content) :=
  (Utf8.encode_flatten _).symm

theorem result_writeTo_boundless (colour : Bool) (content : String) :
    (writeTo {} colour true content).result =
      ({ taken := Utf8.encode (text colour content) }, true) := by
  rw [result_writeTo, Sink.writeAll_boundless, flatten_encode_pieces, List.nil_append]

theorem result_writeTo_bounded (room : Nat) (colour : Bool) (content : String) :
    (writeTo { room := some room } colour true content).result =
      ({ taken := (Utf8.encode (text colour content)).take room,
         room := some (room - (Utf8.encode (text colour content)).length) },
        decide ((Utf8.encode (text colour content)).length ≤ room)) := by
  rw [result_writeTo, Sink.writeAll_bounded, flatten_encode_pieces, List.nil_append]

/-- A sink that fails after some bytes has taken just the first bytes of what a sink without bounds takes, as
many as there is room for, and it fails exactly if that is not all. If advisories are off, nothing is written
and nothing fails. -/
theorem cut_off_at_room (colour : Bool) (content : String) :
    ∃ whole, (writeTo {} colour true content).result = ({ taken := whole }, true) ∧
      whole = Utf8.encode (text colour content) ∧
      ∀ room : Nat,
        (writeTo { room := some room } colour true content).result.1.taken =
            whole.take (min room whole.length) ∧
          ((writeTo { room := some room } colour true content).result.2 = false ↔ room < whole.length) ∧
          (writeTo { room := some room } colour false content).result = ({ room := some room }, true) := by
  refine ⟨_, result_writeTo_boundless colour content, rfl, fun room => ⟨?_, ?_, rfl⟩⟩
  · rw [result_writeTo_bounded, ← List.take_eq_take_min]
  · rw [result_writeTo_bounded, decide_eq_false_iff_not, Nat.not_le]

/-! ## The content -/

/-- What stands behind the content. -/
def trailer : List Char := '\n' :: (Indent.lines margin hint.toList ++ ['\n'])

theorem text_eq (colour : Bool) (content : String) :
    text colour content = Style.warning.emphasize colour content.toList ++ trailer := by
  rw [text, pieces, List.flatten_append, Style.flatten_pieces]
  simp only [List.flatten_cons, List.flatten_nil, List.append_nil, List.singleton_append, trailer]

theorem taken_writeTo_boundless (colour : Bool) (content : String) :
    (writeTo {} colour true content).result.1.taken =
      Utf8.encode (Style.warning.emphasize colour content.toList ++ trailer) := by
  rw [result_writeTo_boundless, text_eq]

/-- The emphasised part of a coloured advisory is one start of the style, what is started again, and one end of
all styles. In between, a start stands behind every such end; without these starts it is the content. So
different contents are written differently, with colour and without. -/
theorem content_read_back :
    (∀ content : String, ∃ inner,
        (writeTo {} true true content).result.1.taken =
            Utf8.encode (Style.warning.start ++ inner ++ Style.reset ++ trailer) ∧
          Style.warning.Restarted inner ∧ Style.warning.unrestart inner = content.toList) ∧
      ∀ (colour : Bool) (a b : String),
        (writeTo {} colour true a).result.1.taken = (writeTo {} colour true b).result.1.taken ↔ a = b := by
  refine ⟨fun content => ?_, fun colour a b => ⟨fun h => ?_, fun h => h ▸ rfl⟩⟩
  · have hinner := Style.restarted_restart Style.warning (by decide) (by decide) content.toList
    exact ⟨_, taken_writeTo_boundless true content, hinner, Style.unrestart_restart _ _⟩
  · rw [taken_writeTo_boundless, taken_writeTo_boundless] at h
    have hemphasized := List.append_cancel_right (Utf8.encode_injective h)
    exact String.toList_inj.mp (Style.emphasize_inj hemphasized)

/-- A content that starts the style again by itself and breaks off within a sequence. -/
example : Style.warning.restart "a\x1b[0m\x1b[1;33mb\x1b[0".toList =
    "a\x1b[0m\x1b[1;33m\x1b[1;33mb\x1b[0".toList := by decide

end Advisory

end HostBoundary
