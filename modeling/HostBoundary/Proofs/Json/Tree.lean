-- SUMMARY: Documents as trees: induction over items and fields, and what depth, integers, repeated keys and the compact form are in terms of their members.
import HostBoundary.Json.Writer
import HostBoundary.Text.Split

/-!
# Documents as trees

The items of an array and the values of an object are documents again. `Json.induct` is induction
over that nesting with one hypothesis for all members. The functions on lists of items and fields
go through their members one by one, so each of them is also a statement about every member.
-/

namespace HostBoundary

namespace Json

/-! ## Induction -/

/-- What holds of scalars, and of an array or object whenever it holds of all that stands in it,
holds of every document. -/
@[elab_as_elim]
theorem induct {motive : Json → Prop} (null : motive .null) (bool : ∀ value, motive (.bool value))
    (number : ∀ n, motive (.number n)) (string : ∀ text, motive (.string text))
    (array : ∀ items, (∀ item ∈ items, motive item) → motive (.array items))
    (object : ∀ fields, (∀ field ∈ fields, motive field.2) → motive (.object fields))
    (doc : Json) : motive doc := by
  -- The recursor wants a property of lists of items, of lists of fields and of single fields.
  refine @Json.rec motive (fun items => ∀ item ∈ items, motive item)
    (fun fields => ∀ field ∈ fields, motive field.2) (fun field => motive field.2)
    null bool number string array object ?_ ?_ ?_ ?_ ?_ doc
  · intro item hitem
    cases hitem
  · intro first rest hfirst hrest
    exact List.forall_mem_cons.mpr ⟨hfirst, hrest⟩
  · intro field hfield
    cases hfield
  · intro first rest hfirst hrest
    exact List.forall_mem_cons.mpr ⟨hfirst, hrest⟩
  · intro key value hvalue
    exact hvalue

/-! ## Depth -/

theorem depthItems_le_iff {items : List Json} {n : Nat} :
    depthItems items ≤ n ↔ ∀ item ∈ items, item.depth ≤ n := by
  induction items with
  | nil => simp [depthItems]
  | cons item rest ih => rw [depthItems, Nat.max_le, ih, List.forall_mem_cons]

theorem depthFields_le_iff {fields : Fields} {n : Nat} :
    depthFields fields ≤ n ↔ ∀ field ∈ fields, field.2.depth ≤ n := by
  induction fields with
  | nil => simp [depthFields]
  | cons field rest ih => rw [depthFields, Nat.max_le, ih, List.forall_mem_cons]

/-- An array is one level deeper than its items. -/
theorem depth_array_le_iff {items : List Json} {n : Nat} :
    (array items).depth ≤ n + 1 ↔ ∀ item ∈ items, item.depth ≤ n := by
  rw [depth, Nat.add_le_add_iff_right, depthItems_le_iff]

/-- An object is one level deeper than its values. -/
theorem depth_object_le_iff {fields : Fields} {n : Nat} :
    (object fields).depth ≤ n + 1 ↔ ∀ field ∈ fields, field.2.depth ≤ n := by
  rw [depth, Nat.add_le_add_iff_right, depthFields_le_iff]

/-! ## Integers -/

theorem isIntegralItems_iff {items : List Json} :
    isIntegralItems items = true ↔ ∀ item ∈ items, item.isIntegral = true := by
  induction items with
  | nil => simp [isIntegralItems]
  | cons item rest ih => simp [isIntegralItems, ih]

theorem isIntegralFields_iff {fields : Fields} :
    isIntegralFields fields = true ↔ ∀ field ∈ fields, field.2.isIntegral = true := by
  induction fields with
  | nil => simp [isIntegralFields]
  | cons field rest ih => simp [isIntegralFields, ih]

/-! ## Repeated keys -/

theorem isMergedItems_iff {items : List Json} :
    IsMergedItems items ↔ ∀ item ∈ items, item.IsMerged := by
  induction items with
  | nil => simp [IsMergedItems]
  | cons item rest ih => simp [IsMergedItems, ih]

theorem isMergedFields_iff {fields : Fields} :
    IsMergedFields fields ↔ ∀ field ∈ fields, field.2.IsMerged := by
  induction fields with
  | nil => simp [IsMergedFields]
  | cons field rest ih => simp [IsMergedFields, ih]

theorem mergedItems_eq_map (items : List Json) : mergedItems items = items.map merged := by
  induction items with
  | nil => rfl
  | cons item rest ih => rw [mergedItems, ih, List.map_cons]

theorem mergedFields_eq_map (fields : Fields) :
    mergedFields fields = fields.map fun field => (field.1, field.2.merged) := by
  induction fields with
  | nil => rfl
  | cons field rest ih => rw [mergedFields, ih, List.map_cons]

/-! ## The compact form -/

/-- A field in compact form. -/
def writeField (field : String × Json) : List Char :=
  StringLiteral.write field.1 ++ ':' :: field.2.write

theorem writeItems_eq_join (items : List Json) : writeItems items = Text.join ',' (items.map write) := by
  induction items with
  | nil => rfl
  | cons item rest ih =>
    cases rest with
    | nil => rfl
    | cons next more =>
      rw [writeItems, ih]
      · rfl
      · exact List.cons_ne_nil _ _

theorem writeFields_eq_join (fields : Fields) :
    writeFields fields = Text.join ',' (fields.map writeField) := by
  induction fields with
  | nil => rfl
  | cons field rest ih =>
    cases rest with
    | nil => rfl
    | cons next more =>
      rw [writeFields, ih]
      · simp only [List.map_cons, Text.join, writeField, List.append_assoc, List.cons_append]
      · exact List.cons_ne_nil _ _

end Json

end HostBoundary
