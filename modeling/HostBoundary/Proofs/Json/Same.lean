-- SUMMARY: Equality that ignores the order of fields: equal objects hold equal values under each key, and go on to do so when equal values are inserted.
import HostBoundary.Failure.Basic
import HostBoundary.Proofs.Assoc
import HostBoundary.Proofs.Json.Tree
import Mathlib.Data.List.Perm.Subperm

/-!
# Equality whatever the order of fields

Two objects are equal if they have equally many fields and each field of the first has an equal one under the
same key in the second. Where no key repeats, that is to say that a look-up finds equal values in both, or in
neither. So whatever is told from look-ups is the same for equal objects.
-/

namespace HostBoundary

namespace Json

variable {a b : Json} {as bs : Fields}

/-! ## Single values -/

theorem eq_of_same_number {n m : Number} (hint : n.isInt) (h : n.same m) : n = m := by
  cases n with
  | float x => cases hint
  | int i hi =>
    cases m with
    | float x => cases h
    | int j hj =>
      cases eq_of_beq h
      rfl

/-- Where all numbers are integers, equal values are the same value, or two arrays, or two objects. -/
theorem eq_or_of_same (hint : a.isIntegral) (h : a.same b) :
    a = b ∨ (∃ as bs, a = array as ∧ b = array bs) ∨ ∃ as bs, a = object as ∧ b = object bs := by
  cases a with
  | null =>
    cases b with
    | null => exact .inl rfl
    | bool | number | string | array | object => cases h
  | bool value =>
    cases b with
    | bool other => exact .inl (congrArg bool (eq_of_beq h))
    | null | number | string | array | object => cases h
  | number n =>
    cases b with
    | number m => exact .inl (congrArg number (eq_of_same_number hint h))
    | null | bool | string | array | object => cases h
  | string text =>
    cases b with
    | string other => exact .inl (congrArg string (eq_of_beq h))
    | null | bool | number | array | object => cases h
  | array as =>
    cases b with
    | array bs => exact .inr (.inl ⟨as, bs, rfl, rfl⟩)
    | null | bool | number | string | object => cases h
  | object as =>
    cases b with
    | object bs => exact .inr (.inr ⟨as, bs, rfl, rfl⟩)
    | null | bool | number | string | array => cases h

theorem text?_eq_of_same (hint : a.isIntegral) (h : a.same b) : a.text? = b.text? := by
  obtain rfl | ⟨as, bs, rfl, rfl⟩ | ⟨as, bs, rfl, rfl⟩ := eq_or_of_same hint h
  · rfl
  · rfl
  · rfl

theorem isTruthy_eq_of_same (hint : a.isIntegral) (h : a.same b) : a.isTruthy = b.isTruthy := by
  obtain rfl | ⟨as, bs, rfl, rfl⟩ | ⟨as, bs, rfl, rfl⟩ := eq_or_of_same hint h
  · rfl
  · rfl
  · rfl

/-! ## Fields -/

theorem sameFields_iff : sameFields as bs ↔
    ∀ field ∈ as, ∃ b, Assoc.get? bs field.1 = some b ∧ field.2.same b := by
  induction as with
  | nil => simp [sameFields]
  | cons field rest ih =>
    rw [sameFields, Bool.and_eq_true, ih, List.forall_mem_cons]
    cases Assoc.get? bs field.1 <;> simp

/-- Look-ups under a key find equal values, or none in either. -/
def SameUnder (as bs : Fields) (key : String) : Prop :=
  Option.Rel (fun a b => a.same b) (Assoc.get? as key) (Assoc.get? bs key)

namespace SameUnder

variable {key : String}

theorem cases (h : SameUnder as bs key) :
    (Assoc.get? as key = none ∧ Assoc.get? bs key = none) ∨
      ∃ a b, Assoc.get? as key = some a ∧ Assoc.get? bs key = some b ∧ a.same b := by
  unfold SameUnder at h
  generalize Assoc.get? as key = a?, Assoc.get? bs key = b? at h ⊢
  cases h with
  | none => exact .inl ⟨rfl, rfl⟩
  | some hsame => exact .inr ⟨_, _, rfl, rfl, hsame⟩

theorem contains_eq (h : SameUnder as bs key) : Assoc.contains as key = Assoc.contains bs key := by
  obtain ⟨ha, hb⟩ | ⟨a, b, ha, hb, -⟩ := h.cases
  · simp [Assoc.contains, ha, hb]
  · simp [Assoc.contains, ha, hb]

theorem mem_keys_iff (h : SameUnder as bs key) : key ∈ Assoc.keys as ↔ key ∈ Assoc.keys bs := by
  rw [← Assoc.contains_iff, ← Assoc.contains_iff, h.contains_eq]

/-- What is the same for equal values is the same for what is found in equal objects. -/
theorem map_eq {β : Type} {f : Json → β} (h : SameUnder as bs key) (hint : (object as).isIntegral)
    (hf : ∀ {a b : Json}, a.isIntegral → a.same b → f a = f b) :
    (Assoc.get? as key).map f = (Assoc.get? bs key).map f := by
  obtain ⟨ha, hb⟩ | ⟨a, b, ha, hb, hsame⟩ := h.cases
  · rw [ha, hb]
  · have hvalue : a.isIntegral := isIntegralFields_iff.mp hint _ (Assoc.mem_of_get?_eq_some ha)
    rw [ha, hb, Option.map_some, Option.map_some, hf hvalue hsame]

end SameUnder

/-- Objects are equal, where no key repeats in the first, if they have equally many fields and look-ups find
equal values. -/
theorem same_object_iff (hkeys : (Assoc.keys as).Nodup) :
    (object as).same (object bs) ↔ as.length = bs.length ∧ ∀ key, SameUnder as bs key := by
  have hobject : (object as).same (object bs) ↔ as.length = bs.length ∧ sameFields as bs := by
    simp [same]
  rw [hobject, sameFields_iff]
  refine and_congr_right fun hlength => ⟨fun h key => ?_, fun h field hfield => ?_⟩
  · cases hget : Assoc.get? as key with
    | some a =>
      obtain ⟨b, hb, hsame⟩ := h _ (Assoc.mem_of_get?_eq_some hget)
      rw [SameUnder, hget, hb]
      exact .some hsame
    | none =>
      -- Equally many different keys, all of them among those of the other: there are no others.
      have hsubset : Assoc.keys as ⊆ Assoc.keys bs := by
        intro other hother
        obtain ⟨field, hfield, rfl⟩ := List.mem_map.mp hother
        obtain ⟨b, hb, -⟩ := h field hfield
        exact List.mem_map.mpr ⟨_, Assoc.mem_of_get?_eq_some hb, rfl⟩
      have hperm : (Assoc.keys as).Perm (Assoc.keys bs) :=
        (List.subperm_of_subset hkeys hsubset).perm_of_length_le (by simp [Assoc.keys, hlength])
      have hnone : Assoc.get? bs key = none := by
        rw [Assoc.get?_eq_none_iff] at hget ⊢
        exact mt hperm.mem_iff.mpr hget
      rw [SameUnder, hget, hnone]
      exact .none
  · have hunder := h field.1
    rw [SameUnder, Assoc.get?_eq_some_of_mem hkeys hfield] at hunder
    cases hb : Assoc.get? bs field.1 with
    | none =>
      rw [hb] at hunder
      cases hunder
    | some b =>
      rw [hb, Option.rel_some_some] at hunder
      exact ⟨b, rfl, hunder⟩

/-- Equal values that are inserted under a key leave equal objects equal. -/
theorem same_insert {key : String} (hkeys : (Assoc.keys as).Nodup) (hfields : (object as).same (object bs))
    (h : a.same b) :
    (object (Assoc.insert key a as)).same (object (Assoc.insert key b bs)) := by
  obtain ⟨hlength, hunder⟩ := (same_object_iff hkeys).mp hfields
  refine (same_object_iff (Assoc.nodup_keys_insert key a hkeys)).mpr ⟨?_, fun other => ?_⟩
  · simp only [Assoc.length_insert, hlength, (hunder key).mem_keys_iff]
  · rw [SameUnder, Assoc.get?_insert, Assoc.get?_insert]
    split
    · exact .some h
    · exact hunder other

end Json

end HostBoundary
