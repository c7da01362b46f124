-- SUMMARY: Codecs that read exactly what they write, and codecs whose values survive being written and read again, alone or in lists.
import HostBoundary.Json.Codec
import HostBoundary.Proofs.Json.Merging
import Mathlib.Data.List.Forall2

/-!
# Exact and faithful codecs

An exact codec reads a value from one document only, the one as which the value is written. Not every codec
is exact: repeated keys are merged, and a record may come as an array. What is asked of all of them is
less. What was read and is written is read as it was; and it does not become a list by that.
-/

namespace HostBoundary

namespace Codec

variable {α : Type} {codec : Codec α}

/-! ## Lists -/

/-- The values are those of the items, in order. -/
theorem mapM_decode_eq_some_iff {items : List Json} {xs : List α} : items.mapM codec.decode = some xs ↔
    List.Forall₂ (fun item x => codec.decode item = some x) items xs := by
  induction items generalizing xs with
  | nil =>
    rw [List.mapM_nil, List.forall₂_nil_left_iff]
    exact ⟨fun h => (Option.some.inj h).symm, fun h => congrArg some h.symm⟩
  | cons item rest ih =>
    rw [List.mapM_cons, List.forall₂_cons_left_iff]
    simp only [Option.bind_eq_bind, Option.bind_eq_some_iff, Option.pure_def, Option.some.injEq, ih]
    constructor
    · rintro ⟨x, hx, more, hmore, rfl⟩
      exact ⟨x, more, hx, hmore, rfl⟩
    · rintro ⟨x, more, hx, hmore, rfl⟩
      exact ⟨x, hx, more, hmore, rfl⟩

theorem list_decode_eq_some_iff {doc : Json} {xs : List α} : codec.list.decode doc = some xs ↔
    ∃ items, doc = .array items ∧ List.Forall₂ (fun item x => codec.decode item = some x) items xs := by
  cases doc with
  | array items =>
    have hread : codec.list.decode (.array items) = items.mapM codec.decode := rfl
    simp [hread, mapM_decode_eq_some_iff]
  | null | bool | number | string | object => simp [list]

/-- A list is read from what it is written as, if each of its values is. -/
theorem list_decode_encode {xs : List α} (h : ∀ x ∈ xs, codec.decode (codec.encode x) = some x) :
    codec.list.decode (codec.list.encode xs) = some xs := by
  refine list_decode_eq_some_iff.mpr ⟨xs.map codec.encode, rfl, ?_⟩
  rw [List.forall₂_map_left_iff, List.forall₂_same]
  exact h

/-! ## Exact codecs -/

/-- A value is read from the document as which it is written, and from no other. -/
def IsExact (codec : Codec α) : Prop := ∀ doc x, codec.decode doc = some x ↔ codec.encode x = doc

theorem isExact_text : text.IsExact := by
  intro doc x
  cases doc with
  | string content => simp [text, Json.text?, eq_comm]
  | null | bool | number | array | object => simp [text, Json.text?]

theorem isExact_bool : bool.IsExact := by
  intro doc x
  cases doc with
  | bool value => simp [bool, eq_comm]
  | null | number | string | array | object => simp [bool]

theorem isExact_int64 : int64.IsExact := by
  intro doc x
  cases doc with
  | number n =>
    cases n with
    | int n hn =>
      simp only [int64, ofInt64, Option.ite_none_right_eq_some, Option.some.injEq, Json.number.injEq,
        Number.int.injEq]
      constructor
      · rintro ⟨hbounds, rfl⟩
        exact Int64.toInt_ofInt_of_le hbounds.1 hbounds.2
      · rintro rfl
        exact ⟨⟨Int64.le_toInt x, Int64.toInt_lt x⟩, Int64.ofInt_toInt x⟩
    | float value => simp [int64, ofInt64]
  | null | bool | string | array | object => simp [int64]

theorem isExact_byte : byte.IsExact := by
  intro doc x
  cases doc with
  | number n =>
    cases n with
    | int n hn =>
      simp only [byte, ofByte, Option.ite_none_right_eq_some, Option.some.injEq, Json.number.injEq,
        Number.int.injEq]
      constructor
      · rintro ⟨hbounds, rfl⟩
        rw [UInt8.toNat_ofNat', Nat.mod_eq_of_lt (by omega), Int.toNat_of_nonneg hbounds.1]
      · rintro rfl
        have hlt := x.toNat_lt
        exact ⟨⟨by omega, by omega⟩, by simp⟩
    | float value => simp [byte, ofByte]
  | null | bool | string | array | object => simp [byte]

namespace IsExact

theorem list (h : codec.IsExact) : codec.list.IsExact := by
  intro doc xs
  have hitems (items : List Json) :
      List.Forall₂ (fun item x => codec.decode item = some x) items xs ↔ items = xs.map codec.encode := by
    simp only [h _ _, eq_comm]
    rw [← List.forall₂_map_right_iff (R := (· = ·)), List.forall₂_eq_eq_eq]
  simp only [list_decode_eq_some_iff, hitems]
  constructor
  · rintro ⟨items, rfl, rfl⟩
    rfl
  · rintro rfl
    exact ⟨_, rfl, rfl⟩

/-- Null is free for what is not there only if no value is written as null. -/
theorem optional (h : codec.IsExact) (hnull : ∀ x, codec.encode x ≠ .null) : codec.optional.IsExact := by
  intro doc x
  cases doc with
  | null =>
    cases x with
    | none => simp [Codec.optional]
    | some x => simp [Codec.optional, hnull x]
  | bool | number | string | array | object =>
    cases x with
    | none => simp [Codec.optional]
    | some x => simp [Codec.optional, h _ _]

end IsExact

/-! ## Faithful codecs -/

/-- What was read can be written and is then read as it was, both as one value and as an item of a list. -/
structure IsFaithful (codec : Codec α) (IsValid : α → Prop) : Prop where
  /-- Only valid values are read. -/
  valid : ∀ {doc x}, codec.decode doc = some x → IsValid x
  /-- A valid value is read from what it is written as. -/
  decode_encode : ∀ {x}, IsValid x → codec.decode (codec.encode x) = some x
  /-- What was read as one value, and not as a list, is not written as a list. -/
  no_list : ∀ {doc x}, codec.list.decode doc = none → codec.decode doc = some x →
    codec.list.decode (codec.encode x) = none

theorem IsFaithful.valid_of_mem {IsValid : α → Prop} (h : codec.IsFaithful IsValid) {doc : Json}
    {xs : List α} (hread : codec.list.decode doc = some xs) : ∀ x ∈ xs, IsValid x := by
  obtain ⟨items, -, hitems⟩ := list_decode_eq_some_iff.mp hread
  clear hread
  induction hitems with
  | nil => exact List.forall_mem_nil _
  | cons hitem _ ih => exact List.forall_mem_cons.mpr ⟨h.valid hitem, ih⟩

theorem IsExact.isFaithful (h : codec.IsExact) : codec.IsFaithful fun _ => True where
  valid := fun _ => trivial
  decode_encode := fun _ => (h _ _).mpr rfl
  no_list := by
    intro doc x hlist hread
    rw [(h doc x).mp hread]
    exact hlist

/-- An array is always read as a list of documents, so no array is read as one document only. -/
theorem isFaithful_json : json.IsFaithful Json.IsMerged where
  valid := by
    intro doc x hread
    cases hread
    exact Json.isMerged_merged doc
  decode_encode := fun h => congrArg some (Json.merged_eq_self h)
  no_list := by
    intro doc x hlist hread
    cases hread
    cases doc with
    | array items =>
      have hitems : List.Forall₂ (fun item x => json.decode item = some x) items (items.map Json.merged) := by
        rw [List.forall₂_map_right_iff, List.forall₂_same]
        exact fun item _ => rfl
      have hlist' := list_decode_eq_some_iff.mpr ⟨items, rfl, hitems⟩
      rw [hlist] at hlist'
      cases hlist'
    | null | bool | number | string | object => rfl

end Codec

end HostBoundary
