-- SUMMARY: An integer that is written anywhere in a text crosses as itself if one word holds it, and never as another integer.
import HostBoundary.Proofs.Json.Around
import HostBoundary.Proofs.Payload.RoundTrip
import HostBoundary.Proofs.Payload.TextAndBytes

/-!
# Integers across the boundary

Digits are gathered into a word as long as they fit, and a sign can be in front of them, so there is an end to
the integers at either side. Up to there an integer that is received as text is that integer, and it is sent
with the same digits. Beyond, it is a float or it is rejected with all that is around it. Where in the text it
stands makes no difference.
-/

namespace HostBoundary

namespace Payload

open Json

variable {around : List Char → List Char} {place : List Selector} {n : Int}

/-- What holds a number at some place is structured. -/
theorem structured?_of_part? {doc : Json} {number : Number} (h : part? place doc = some (.number number)) :
    (ofJson doc).structured? = some doc := by
  cases doc with
  | number | array | object | bool => rfl
  | null | string =>
    cases place with
    | nil => cases h
    | cons selector place =>
      cases selector with
      | item => cases h
      | field => cases h

/-- What is made of a text with an integer in its gap. -/
def received (around : List Char → List Char) (n : Int) : Except BoundaryError Json :=
  (toDocument (.text (String.ofList (around (Decimal.integer n))))).run.result

/-- What is received around an integer. The document has the number at the place of the integer that is found
where the integer is written, and the text around it there does not depend on the integer. -/
theorem exists_received (h : Around maxDepth around place) : ∃ before behind,
    (place = [] → before = [] ∧ behind = []) ∧
      (∀ n found, writtenNumber n = .ok found → ∃ doc, received around n = .ok doc ∧
        part? place doc = some (.number found) ∧ doc.write = before ++ writeNumber found ++ behind) ∧
      ∀ n cause, writtenNumber n = .error cause → ∃ position : Position,
        received around n = .error (.malformedPayload (Json.Error.message ⟨cause, some position⟩)) := by
  obtain ⟨tree, fill, hhole, hmerged, hreads⟩ := h.exists_isHole
  obtain ⟨before, behind, hwhole, hwrite⟩ := hhole.write
  have hread (n : Int) := hreads (Decimal.integer n) _ fun depth => isRead_integer depth n
  refine ⟨before, behind, hwhole, fun n found hfound => ?_, fun n cause hcause => ?_⟩
  · have hn := hread n
    rw [hfound] at hn
    have hparse := parse_of_isRead hn
    rw [hmerged] at hparse
    exact ⟨_, result_readText_of_ok hparse, hhole.part? _, hwrite _⟩
  · have hn := hread n
    rw [hcause] at hn
    obtain ⟨position, herror⟩ := exists_parse_eq_error_of_isRead hn
    exact ⟨position, result_readText_of_error herror⟩

/-- An integer that is written in a text, by itself or as an item or the value of a key at any place, is
received as that integer at that place exactly if one word holds it, whether the text comes as text or as bytes.
What is received then is sent with the same digits. They have the same text before them and behind them whatever
the integer is, and none if the integer is the whole document. Any other integer is received as a float, or else
all is rejected for a number that is out of range. -/
theorem integers_cross_exactly_iff (h : Around maxDepth around place) :
    (∀ n : Int, toDocument (.bytes (Utf8.encode (around (Decimal.integer n)))) =
        toDocument (.text (String.ofList (around (Decimal.integer n))))) ∧
      (∀ n : Int, (∃ doc isWord, received around n = .ok doc ∧
        part? place doc = some (.number (.int n isWord))) ↔ IsWord n) ∧
      (∃ before behind, (place = [] → before = [] ∧ behind = []) ∧ ∀ n doc, IsWord n →
        received around n = .ok doc → (toWire (some (ofJson doc))).run.result =
          .ok (some (Utf8.encode (before ++ Decimal.integer n ++ behind)))) ∧
      ∀ n : Int, ¬ IsWord n →
        (∃ doc x, received around n = .ok doc ∧ part? place doc = some (.number (.float x))) ∨
          ∃ position : Position, received around n =
            .error (.malformedPayload (Json.Error.message ⟨.numberOutOfRange, some position⟩)) := by
  obtain ⟨before, behind, hwhole, hfound, hrejected⟩ := exists_received h
  refine ⟨fun n => ?_, fun n => ⟨?_, fun hword => ?_⟩, ⟨before, behind, hwhole, fun n doc hword hdoc => ?_⟩,
    fun n hword => ?_⟩
  · have hbytes := toDocument_utf8 (String.ofList (around (Decimal.integer n)))
    rwa [utf8, String.toList_ofList] at hbytes
  · rintro ⟨doc, hword, -, -⟩
    exact hword
  · obtain ⟨doc, hdoc, hpart, -⟩ := hfound n _ (writtenNumber_of_isWord hword)
    exact ⟨doc, hword, hdoc, hpart⟩
  · obtain ⟨same, hsame, hpart, hwrite⟩ := hfound n _ (writtenNumber_of_isWord hword)
    cases hsame.symm.trans hdoc
    rw [result_toWire_of_structured (structured?_of_part? hpart), Json.toBytes, hwrite, writeNumber]
  · obtain ⟨x, hnumber⟩ | hnumber := writtenNumber_cases hword
    · obtain ⟨doc, hdoc, hpart, -⟩ := hfound n _ hnumber
      exact .inl ⟨doc, x, hdoc, hpart⟩
    · exact .inr (hrejected n _ hnumber)

/-- An integer behind a float, in an array that an object has under a key with a blank before its value,
between fields with other keys. -/
def nested (text : List Char) : List Char :=
  '{' :: (Text.join ',' ([StringLiteral.write "b" ++ [':'] ++ Json.null.write] ++
    (StringLiteral.write "a" ++ [':'] ++ ([' '] ++
      ('[' :: (Text.join ',' ([['0', '.', '5']] ++ text :: []) ++ [']'])) ++ [])) ::
    [StringLiteral.write "c" ++ [':'] ++ (Json.array []).write]) ++ ['}'])

theorem around_nested : Around maxDepth nested [.field "a", .item 1] := by
  have hfloat : IsText 125 ['0', '.', '5'] (.number (.float (Decimal.divide (Nat.toUInt64 5).toFloat 1))) :=
    ⟨[], rfl, rfl⟩
  have hbefore : IsField 126 (StringLiteral.write "b" ++ [':'] ++ Json.null.write) ("b", .null) :=
    .mk (isKey_write "b") (isText_write rfl (by decide))
  have hbehind : IsField 126 (StringLiteral.write "c" ++ [':'] ++ (Json.array []).write) ("c", .array []) :=
    .mk (isKey_write "c") (isText_write rfl (by decide))
  exact .field (.blanks (.item (.gap 125) (.cons hfloat .nil) .nil) rfl rfl) (isKey_write "a")
    (.cons hbefore .nil) (.cons hbehind .nil) (by decide)

/-- The greatest integer of a word crosses inside other documents, and the next integer does not. -/
theorem nested_integer_crosses :
    Around maxDepth nested [.field "a", .item 1] ∧
      (∃ doc isWord, received nested 18446744073709551615 = .ok doc ∧
        part? [.field "a", .item 1] doc = some (.number (.int 18446744073709551615 isWord))) ∧
      ¬ ∃ doc isWord, received nested 18446744073709551616 = .ok doc ∧
        part? [.field "a", .item 1] doc = some (.number (.int 18446744073709551616 isWord)) := by
  have hiff := (integers_cross_exactly_iff around_nested).2.1
  exact ⟨around_nested, (hiff _).mpr (by decide), fun h => absurd ((hiff _).mp h) (by decide)⟩

end Payload

end HostBoundary
