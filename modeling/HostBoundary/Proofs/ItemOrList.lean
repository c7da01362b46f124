-- SUMMARY: What is read as a list of items and what as one item, and the cause where neither can be done.
import HostBoundary.ItemOrList
import HostBoundary.Proofs.Json.Codec

/-!
# One item or a list of items

An array is read as a list if each of its items is an item, and the values are then theirs, in order. It
is read as one item only if that cannot be done. What can be read in neither way is refused, always with
the same cause.
-/

namespace HostBoundary

namespace ItemOrList

variable {α : Type} {codec : Codec α} {items : List Json}

theorem decode_array (codec : Codec α) (items : List Json) : decode codec (.array items) =
    match items.mapM codec.decode with
    | some xs => some (.list xs)
    | none => (codec.decode (.array items)).map item := rfl

/-- An array is read as a list wherever that can be done. -/
theorem decode_array_eq_list_iff {xs : List α} : decode codec (.array items) = some (.list xs) ↔
    List.Forall₂ (fun item x => codec.decode item = some x) items xs := by
  rw [← Codec.mapM_decode_eq_some_iff, decode_array]
  cases items.mapM codec.decode with
  | some found => simp
  | none => simp

/-- An array is read as one item only if it cannot be read as a list. -/
theorem decode_array_eq_item_iff {x : α} : decode codec (.array items) = some (.item x) ↔
    items.mapM codec.decode = none ∧ codec.decode (.array items) = some x := by
  rw [decode_array]
  cases items.mapM codec.decode with
  | some found => simp
  | none => simp

theorem ofJson_eq_ok_iff {doc : Json} {x : ItemOrList α} :
    ofJson codec doc = .ok x ↔ decode codec doc = some x := by
  rw [ofJson]
  cases decode codec doc with
  | some found => simp
  | none => simp

/-- A document is refused, always with the same cause, if it can be read in neither way. -/
theorem ofJson_eq_error_iff {doc : Json} {cause : Json.Cause} :
    ofJson codec doc = .error cause ↔
      cause = neither ∧ (∀ xs, ofJson codec doc ≠ .ok (list xs)) ∧
        ∀ x, ofJson codec doc ≠ .ok (item x) := by
  constructor
  · intro h
    refine ⟨?_, fun xs hxs => ?_, fun x hx => ?_⟩
    · rw [ofJson] at h
      split at h
      · cases h
      · exact (Except.error.inj h).symm
    · rw [h] at hxs
      cases hxs
    · rw [h] at hx
      cases hx
  · rintro ⟨rfl, hlist, hitem⟩
    cases hread : decode codec doc with
    | none => rw [ofJson, hread]
    | some x =>
      cases x with
      | list xs => exact absurd (ofJson_eq_ok_iff.mpr hread) (hlist xs)
      | item x => exact absurd (ofJson_eq_ok_iff.mpr hread) (hitem x)

/-! ## Reading what was written -/

section Faithful

variable {IsValid : α → Prop}

/-- A list of valid values is read from what it is written as. -/
theorem ofJson_encode_list (h : codec.IsFaithful IsValid) {xs : List α} (hxs : ∀ x ∈ xs, IsValid x) :
    ofJson codec (encode codec (.list xs)) = .ok (.list xs) := by
  have hlist : codec.list.decode (encode codec (.list xs)) = some xs :=
    Codec.list_decode_encode fun x hx => h.decode_encode (hxs x hx)
  rw [ofJson_eq_ok_iff, decode, hlist]

/-- Whatever was read is read again from what it is written as: a list as a list of the same items, and one
item as that item. -/
theorem ofJson_encode (h : codec.IsFaithful IsValid) {doc : Json} {x : ItemOrList α}
    (hread : ofJson codec doc = .ok x) :
    ofJson codec (encode codec x) = .ok x ∧ ∀ item ∈ x.toList, IsValid item := by
  rw [ofJson_eq_ok_iff, decode] at hread
  cases hlist : codec.list.decode doc with
  | some xs =>
    rw [hlist] at hread
    cases hread
    have hvalid := h.valid_of_mem hlist
    exact ⟨ofJson_encode_list h hvalid, hvalid⟩
  | none =>
    simp only [hlist, Option.map_eq_some_iff] at hread
    obtain ⟨y, hy, rfl⟩ := hread
    refine ⟨?_, List.forall_mem_singleton.mpr (h.valid hy)⟩
    have hnone : codec.list.decode (encode codec (.item y)) = none := h.no_list hlist hy
    have hagain : codec.decode (encode codec (.item y)) = some y := h.decode_encode (h.valid hy)
    rw [ofJson_eq_ok_iff, decode, hnone, hagain]
    rfl

end Faithful

/-- Items or lists of items are read from exactly what they are written as, if no item is written as a
list. -/
theorem isExact_codec (h : codec.IsExact) (hitem : ∀ x, codec.list.decode (codec.encode x) = none) :
    (ItemOrList.codec codec).IsExact := by
  intro doc x
  change decode codec doc = some x ↔ encode codec x = doc
  rw [decode]
  cases hlist : codec.list.decode doc with
  | some xs =>
    cases x with
    | list ys => simp [encode, ← h.list doc ys, hlist]
    | item y =>
      have hne : codec.encode y ≠ doc := by
        rintro rfl
        rw [hitem y] at hlist
        cases hlist
      simp [encode, hne]
  | none =>
    cases x with
    | list ys => simp [encode, ← h.list doc ys, hlist]
    | item y => simp [encode, h doc y]

end ItemOrList

end HostBoundary
