-- SUMMARY: Items of every type but floats survive being written and read again, alone and in lists.
import HostBoundary.ItemType
import HostBoundary.Proofs.ItemOrList

/-!
# Items that are read again

What was read as one item or as a list of items can be written, and is then read as the same item or as
the same list. Most types have one document for each of their values. Documents and exceptions do not, since
repeated keys are merged in them; nor do loaders, which may come as arrays but are written as objects.
-/

namespace HostBoundary

namespace Loader

theorem decode_toJson (loader : Loader) : codec.decode loader.toJson = some loader := rfl

/-- A loader is always written as an object. -/
theorem isFaithful_codec : codec.IsFaithful fun _ => True where
  valid := fun _ => trivial
  decode_encode := fun {loader} _ => loader.decode_toJson
  no_list := fun _ _ => rfl

end Loader

namespace ItemType

open Codec

/-- An exception is read from an object, with repeated keys merged. -/
theorem toJson_of_decode {doc : Json} {e : Exception} (h : exceptionCodec.decode doc = some e) :
    e.toJson = doc.merged := by
  cases doc with
  | object fields =>
    cases h
    rfl
  | null | bool | number | string | array => cases h

theorem isFaithful_exceptionCodec : exceptionCodec.IsFaithful fun e => e.toJson.IsMerged where
  valid := by
    intro doc e hread
    rw [toJson_of_decode hread]
    exact Json.isMerged_merged doc
  decode_encode := by
    intro e hmerged
    have hsame : Assoc.ofList (Json.mergedFields e.fields) = e.fields :=
      Json.object.inj (Json.merged_eq_self hmerged)
    exact congrArg (fun fields => some (Exception.mk fields)) hsame
  no_list := fun _ _ => rfl

/-- A text is not written as a list, so a text and a list of texts are told apart. -/
theorem isExact_textOrTexts : (ItemOrList.codec Codec.text).IsExact :=
  ItemOrList.isExact_codec isExact_text fun _ => rfl

/-- The values of a type that can be there: no key repeats in them. -/
def IsValue : (type : ItemType) → type.Value → Prop
  | json, doc => Json.IsMerged doc
  | exception, e => (Exception.toJson e).IsMerged
  | _, _ => True

theorem isFaithful_codec {type : ItemType} (h : type ≠ .float) : type.codec.IsFaithful type.IsValue := by
  cases type with
  | text => exact isExact_text.isFaithful
  | int64 => exact isExact_int64.isFaithful
  | byte => exact isExact_byte.isFaithful
  | float => exact absurd rfl h
  | bool => exact isExact_bool.isFaithful
  | json => exact isFaithful_json
  | texts => exact isExact_text.list.isFaithful
  | optionalText => exact (isExact_text.optional fun _ => Json.noConfusion).isFaithful
  | loader => exact Loader.isFaithful_codec
  | textOrTexts => exact isExact_textOrTexts.isFaithful
  | exception => exact isFaithful_exceptionCodec

/-- Whatever is read as one item or as a list of items of a type is read as the same, item or list, from
what it is written as, and its items are read as a list. So one item is read as that item, and as the list of
it alone, and a list as that list. Any list of items is read as the list that it is. -/
theorem items_read_again (type : ItemType) (h : type ≠ .float) :
    (∀ doc x, ItemOrList.ofJson type.codec doc = .ok x →
        ItemOrList.ofJson type.codec (ItemOrList.encode type.codec x) = .ok x ∧
          ItemOrList.ofJson type.codec (ItemOrList.encode type.codec (.list x.toList)) =
            .ok (.list x.toList)) ∧
      (∀ doc item, ItemOrList.ofJson type.codec doc = .ok (.item item) →
        ItemOrList.ofJson type.codec (ItemOrList.encode type.codec (.item item)) = .ok (.item item) ∧
          ItemOrList.ofJson type.codec (ItemOrList.encode type.codec (.list [item])) = .ok (.list [item])) ∧
      (∀ doc items, ItemOrList.ofJson type.codec doc = .ok (.list items) →
        ItemOrList.ofJson type.codec (ItemOrList.encode type.codec (.list items)) = .ok (.list items)) ∧
      ∀ items, (∀ item ∈ items, type.IsValue item) →
        ItemOrList.ofJson type.codec (ItemOrList.encode type.codec (.list items)) = .ok (.list items) := by
  have hfaithful := isFaithful_codec h
  have hagain (doc : Json) (x : ItemOrList type.Value) (hread : ItemOrList.ofJson type.codec doc = .ok x) :
      ItemOrList.ofJson type.codec (ItemOrList.encode type.codec x) = .ok x ∧
        ItemOrList.ofJson type.codec (ItemOrList.encode type.codec (.list x.toList)) =
          .ok (.list x.toList) := by
    obtain ⟨hsame, hvalid⟩ := ItemOrList.ofJson_encode hfaithful hread
    exact ⟨hsame, ItemOrList.ofJson_encode_list hfaithful hvalid⟩
  exact ⟨hagain, fun doc item => hagain doc (.item item),
    fun doc items hread => (hagain doc (.list items) hread).1,
    fun items => ItemOrList.ofJson_encode_list hfaithful⟩

/-- Two texts that were read as one loader are written as an object and read as that loader again; lists in
a list stay lists, whether there is anything in them or not. -/
theorem loader_and_lists_read_again :
    let loader : Loader := { path := "./a.js", query := "./b.js" }
    ItemOrList.ofJson Loader.codec (.array [.string "./a.js", .string "./b.js"]) = .ok (.item loader) ∧
      ItemOrList.ofJson Loader.codec (ItemOrList.encode Loader.codec (.item loader)) = .ok (.item loader) ∧
      ItemOrList.ofJson texts.codec (ItemOrList.encode texts.codec (.list [[], ["a"]])) =
        .ok (.list [[], ["a"]]) := by
  intro loader
  have hread : ItemOrList.ofJson Loader.codec (.array [.string "./a.js", .string "./b.js"]) =
    .ok (.item loader) := rfl
  exact ⟨hread, ((items_read_again .loader (by decide)).1 _ _ hread).1,
    (items_read_again .texts (by decide)).2.2.2 [[], ["a"]] fun _ _ => trivial⟩

end ItemType

end HostBoundary
