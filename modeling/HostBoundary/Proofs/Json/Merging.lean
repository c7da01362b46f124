-- SUMMARY: Merging repeated keys: its result has none, is no deeper, and is the document itself where no key repeats.
import HostBoundary.Proofs.Assoc
import HostBoundary.Proofs.Json.Tree

/-!
# Merging repeated keys

`Json.merged` decides which of the values under one key counts, at every level. What is left has no
repeated key, so merging once is enough, and a document that never had one stays as it is.
-/

namespace HostBoundary

namespace Json

/-- Every field of a merged object is a merged field of the object. -/
theorem exists_of_mem_ofList_mergedFields {fields : Fields} {field : String × Json}
    (h : field ∈ Assoc.ofList (mergedFields fields)) :
    ∃ given ∈ fields, field = (given.1, given.2.merged) := by
  have hmem := Assoc.mem_of_mem_ofList h
  rw [mergedFields_eq_map, List.mem_map] at hmem
  obtain ⟨given, hgiven, rfl⟩ := hmem
  exact ⟨given, hgiven, rfl⟩

/-- No key repeats in a merged document. -/
theorem isMerged_merged (doc : Json) : doc.merged.IsMerged := by
  induction doc using induct with
  | null | bool | number | string => trivial
  | array items ih =>
    rw [merged, IsMerged, isMergedItems_iff, mergedItems_eq_map]
    intro item hitem
    obtain ⟨given, hgiven, rfl⟩ := List.mem_map.mp hitem
    exact ih given hgiven
  | object fields ih =>
    rw [merged, IsMerged, isMergedFields_iff]
    refine ⟨Assoc.nodup_keys_ofList _, ?_⟩
    intro field hfield
    obtain ⟨given, hgiven, rfl⟩ := exists_of_mem_ofList_mergedFields hfield
    exact ih given hgiven

/-- Merging changes nothing where no key repeats. -/
theorem merged_eq_self {doc : Json} : doc.IsMerged → doc.merged = doc := by
  induction doc using induct with
  | null | bool | number | string => exact fun _ => rfl
  | array items ih =>
    intro h
    rw [IsMerged, isMergedItems_iff] at h
    rw [merged, mergedItems_eq_map, List.map_congr_left fun item hitem => ih item hitem (h item hitem),
      List.map_id']
  | object fields ih =>
    intro h
    rw [IsMerged, isMergedFields_iff] at h
    have hfields : mergedFields fields = fields := by
      rw [mergedFields_eq_map]
      refine (List.map_congr_left fun field hfield => ?_).trans (List.map_id' fields)
      rw [ih field hfield (h.2 field hfield)]
    rw [merged, hfields, Assoc.ofList_eq_self h.1]

/-- Merging makes no document deeper. -/
theorem depth_merged_le {doc : Json} {n : Nat} : doc.depth ≤ n → doc.merged.depth ≤ n := by
  induction doc using induct generalizing n with
  | null | bool | number | string => exact fun h => h
  | array items ih =>
    intro h
    cases n with
    | zero => exact absurd h (Nat.not_succ_le_zero _)
    | succ n =>
      rw [depth_array_le_iff] at h
      rw [merged, depth_array_le_iff, mergedItems_eq_map]
      intro item hitem
      obtain ⟨given, hgiven, rfl⟩ := List.mem_map.mp hitem
      exact ih given hgiven (h given hgiven)
  | object fields ih =>
    intro h
    cases n with
    | zero => exact absurd h (Nat.not_succ_le_zero _)
    | succ n =>
      rw [depth_object_le_iff] at h
      rw [merged, depth_object_le_iff]
      intro field hfield
      obtain ⟨given, hgiven, rfl⟩ := exists_of_mem_ofList_mergedFields hfield
      exact ih given hgiven (h given hgiven)

end Json

end HostBoundary
