-- SUMMARY: Places in documents: what stands at a place, and documents that are alike but for one place.
import HostBoundary.Proofs.Json.Merging

/-!
# Places

A place in a document is given by the items and fields through which one gets there. Documents that are alike
but for what stands at one place are what a hole in a document is: whatever is put there is found there, and it
is written as it would be by itself, with the same text before it and behind it. Merging repeated keys leaves
such a place where it is, if its keys are not repeated later.
-/

namespace HostBoundary

namespace Json

/-- One way from a document to a part of it. -/
inductive Selector where
  | item (index : Nat)
  | field (key : String)

/-- What stands in a document at a place. -/
def part? : List Selector → Json → Option Json
  | [], doc => some doc
  | .item index :: place, array items => items[index]?.bind (part? place)
  | .field key :: place, object fields => (Assoc.get? fields key).bind (part? place)
  | _ :: _, _ => none

/-- Whatever is put into a hole stands at its place, and the text around it does not depend on it. Where the
whole document is the hole, there is no such text. -/
structure IsHole (place : List Selector) (fill : Json → Json) : Prop where
  part? : ∀ doc, part? place (fill doc) = some doc
  write : ∃ before behind, (place = [] → before = [] ∧ behind = []) ∧
    ∀ doc, (fill doc).write = before ++ doc.write ++ behind

namespace IsHole

variable {place : List Selector} {fill : Json → Json}

theorem whole : IsHole [] fun doc => doc where
  part? _ := rfl
  write := ⟨[], [], fun _ => ⟨rfl, rfl⟩, fun doc => (List.append_nil doc.write).symm⟩

theorem item (h : IsHole place fill) (lead trail : List Json) :
    IsHole (.item lead.length :: place) fun doc => array (lead ++ fill doc :: trail) where
  part? doc := by
    rw [Json.part?, List.getElem?_append_right (Nat.le_refl _), Nat.sub_self]
    exact h.part? doc
  write := by
    obtain ⟨before, behind, -, hfill⟩ := h.write
    obtain ⟨first, last, hjoin⟩ :=
      Text.exists_join_append_cons ',' (lead.map Json.write) (trail.map Json.write)
    refine ⟨'[' :: (first ++ before), behind ++ (last ++ [']']), nofun, fun doc => ?_⟩
    rw [Json.write, writeItems_eq_join, List.map_append, List.map_cons, hjoin, hfill]
    simp only [List.append_assoc, List.cons_append]

theorem field (h : IsHole place fill) {key : String} {lead : Fields} (trail : Fields)
    (hlead : key ∉ Assoc.keys lead) :
    IsHole (.field key :: place) fun doc => object (lead ++ (key, fill doc) :: trail) where
  part? doc := by
    rw [Json.part?, Assoc.get?_append_cons hlead]
    exact h.part? doc
  write := by
    obtain ⟨before, behind, -, hfill⟩ := h.write
    obtain ⟨first, last, hjoin⟩ :=
      Text.exists_join_append_cons ',' (lead.map writeField) (trail.map writeField)
    refine ⟨'{' :: (first ++ (StringLiteral.write key ++ ':' :: before)), behind ++ (last ++ ['}']),
      nofun, fun doc => ?_⟩
    rw [Json.write, writeFields_eq_join, List.map_append, List.map_cons, hjoin, writeField, hfill]
    simp only [List.append_assoc, List.cons_append]

end IsHole

/-! ## Merging -/

theorem merged_item (lead trail : List Json) (doc : Json) :
    (array (lead ++ doc :: trail)).merged =
      array (lead.map merged ++ doc.merged :: trail.map merged) := by
  rw [merged, mergedItems_eq_map, List.map_append, List.map_cons]

/-- The value that a key has last is the one that is left, and merging the other fields does not depend on
it. -/
theorem exists_merged_field {key : String} (lead : Fields) {trail : Fields} (h : key ∉ Assoc.keys trail) :
    ∃ front back, key ∉ Assoc.keys front ∧ ∀ doc,
      (object (lead ++ (key, doc) :: trail)).merged = object (front ++ (key, doc.merged) :: back) := by
  have hkeys : key ∉ Assoc.keys (mergedFields trail) := by
    rwa [mergedFields_eq_map, Assoc.keys, List.map_map]
  obtain ⟨front, back, hfront, hlist⟩ :=
    Assoc.exists_ofList_append_cons (mergedFields lead) hkeys
  refine ⟨front, back, hfront, fun doc => ?_⟩
  rw [merged, ← hlist, mergedFields_eq_map, mergedFields_eq_map, mergedFields_eq_map, List.map_append,
    List.map_cons]

end Json

end HostBoundary
