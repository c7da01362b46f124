-- SUMMARY: Which array is read as a list of loaders, and which as one loader: the latter are the lists of one to three texts.
import HostBoundary.Loader
import HostBoundary.Proofs.ItemOrList
import HostBoundary.Proofs.Json.Record

/-!
# Lists of loaders

Where one loader or a list of loaders is wanted, an array is read as a list if each item is a loader. A
loader is a record, and so an array of its fields is a loader, too: a list of one, two or three texts
is read as a single loader whose path, query and fragment are these texts. No other array is.
-/

namespace HostBoundary

namespace Loader

open Json

/-- The loader whose fields are texts, in the order of the fields of a loader. -/
def ofTexts? : List String → Option Loader
  | [path] => some { path }
  | [path, query] => some { path, query }
  | [path, query, fragment] => some { path, query, fragment }
  | _ => none

theorem textOf_eq_ok_iff {doc : Json} {text : String} : textOf doc = .ok text ↔ doc = .string text := by
  cases doc with
  | string content => simp [textOf]
  | null | bool | number | array | object => simp [textOf]

/-- The path must be there, and nothing is behind the fragment. -/
theorem exists_texts_of_inOrder {items : List Json} {found : Assoc String}
    (h : InOrder textOf format.fields items found) :
    ∃ texts, items = texts.map .string ∧ ofTexts? texts = some (ofFields found) := by
  change InOrder textOf [("path", true), ("query", false), ("fragment", false)] items found at h
  cases h with
  | done _ hleft => exact absurd (hleft _ List.mem_cons_self) (by decide)
  | item _ _ doc _ path _ hpath hrest =>
    obtain rfl := textOf_eq_ok_iff.mp hpath
    cases hrest with
    | done => exact ⟨[path], rfl, rfl⟩
    | item _ _ doc _ query _ hquery hrest =>
      obtain rfl := textOf_eq_ok_iff.mp hquery
      cases hrest with
      | done => exact ⟨[path, query], rfl, rfl⟩
      | item _ _ doc _ fragment _ hfragment hrest =>
        obtain rfl := textOf_eq_ok_iff.mp hfragment
        cases hrest with
        | done => exact ⟨[path, query, fragment], rfl, rfl⟩

theorem exists_inOrder {texts : List String} {loader : Loader} (h : ofTexts? texts = some loader) :
    ∃ found, InOrder textOf format.fields (texts.map .string) found ∧ ofFields found = loader := by
  unfold ofTexts? at h
  split at h
  · next path =>
    cases h
    exact ⟨_, .item _ _ _ _ path _ rfl (.done _ (by decide)), rfl⟩
  · next path query =>
    cases h
    exact ⟨_, .item _ _ _ _ path _ rfl (.item _ _ _ _ query _ rfl (.done _ (by decide))), rfl⟩
  · next path query fragment =>
    cases h
    exact ⟨_, .item _ _ _ _ path _ rfl (.item _ _ _ _ query _ rfl
      (.item _ _ _ _ fragment _ rfl (.done _ (by decide)))), rfl⟩
  · cases h

/-- An array is a loader if its items are texts, one for the path and at most two more. -/
theorem ofJson_array_eq_ok_iff {items : List Json} {loader : Loader} :
    ofJson (.array items) = .ok loader ↔
      ∃ texts, items = texts.map .string ∧ ofTexts? texts = some loader := by
  have hread : ofJson (.array items) =
      (recordOfItems format textOf items.length [] format.fields items).map ofFields := rfl
  rw [hread]
  constructor
  · intro h
    cases hrecord : recordOfItems format textOf items.length [] format.fields items with
    | error cause =>
      rw [hrecord] at h
      cases h
    | ok found =>
      rw [hrecord] at h
      cases h
      obtain ⟨more, hmore, rfl⟩ := recordOfItems_eq_ok_iff.mp hrecord
      exact exists_texts_of_inOrder hmore
  · rintro ⟨texts, rfl, htexts⟩
    obtain ⟨found, hfound, rfl⟩ := exists_inOrder htexts
    rw [recordOfItems_eq_ok_iff.mpr ⟨found, hfound, rfl⟩]
    rfl

theorem decode_eq_some_iff {doc : Json} {loader : Loader} :
    codec.decode doc = some loader ↔ ofJson doc = .ok loader := by
  have hdecode : codec.decode doc = (ofJson doc).toOption := rfl
  rw [hdecode]
  cases ofJson doc with
  | error cause => simp [Except.toOption]
  | ok found => simp [Except.toOption]

/-- A text alone is no loader, so texts are no list of loaders. -/
theorem mapM_decode_string {texts : List String} (h : texts ≠ []) :
    (texts.map Json.string).mapM codec.decode = none := by
  obtain ⟨text, rest, rfl⟩ := List.exists_cons_of_ne_nil h
  rfl

theorem array_eq_list_iff {items : List Json} {loaders : List Loader} :
    ItemOrList.ofJson codec (.array items) = .ok (.list loaders) ↔
      List.Forall₂ (fun item loader => ofJson item = .ok loader) items loaders := by
  rw [ItemOrList.ofJson_eq_ok_iff, ItemOrList.decode_array_eq_list_iff]
  simp only [decode_eq_some_iff]

theorem array_eq_item_iff {items : List Json} {loader : Loader} :
    ItemOrList.ofJson codec (.array items) = .ok (.item loader) ↔
      ∃ texts, items = texts.map .string ∧ ofTexts? texts = some loader := by
  rw [ItemOrList.ofJson_eq_ok_iff, ItemOrList.decode_array_eq_item_iff, decode_eq_some_iff,
    ofJson_array_eq_ok_iff]
  constructor
  · exact fun h => h.2
  · rintro ⟨texts, rfl, htexts⟩
    refine ⟨mapM_decode_string ?_, texts, rfl, htexts⟩
    rintro rfl
    cases htexts

/-- An array is read as a list of loaders exactly if each item is a loader, and the loaders are then
those of the items in order. It is read as one loader exactly if it consists of one, two or three
texts, which are the path, the query and the fragment. Any other array is refused, always with the
same cause. -/
theorem array_read_iff (items : List Json) :
    (∀ loaders, ItemOrList.ofJson codec (.array items) = .ok (.list loaders) ↔
        List.Forall₂ (fun item loader => ofJson item = .ok loader) items loaders) ∧
      (∀ loader, ItemOrList.ofJson codec (.array items) = .ok (.item loader) ↔
        ∃ texts, items = texts.map .string ∧ ofTexts? texts = some loader) ∧
      ∀ cause, ItemOrList.ofJson codec (.array items) = .error cause ↔
        cause = ItemOrList.neither ∧
          (¬ ∃ loaders, List.Forall₂ (fun item loader => ofJson item = .ok loader) items loaders) ∧
          ¬ ∃ texts loader, items = texts.map .string ∧ ofTexts? texts = some loader := by
  refine ⟨fun _ => array_eq_list_iff, fun _ => array_eq_item_iff, fun cause => ?_⟩
  rw [ItemOrList.ofJson_eq_error_iff, exists_comm]
  simp only [ne_eq, array_eq_list_iff, array_eq_item_iff, not_exists]

/-- A list of two texts, which are no loaders, is read as one loader. -/
theorem two_texts_are_one_loader :
    ItemOrList.ofJson codec (.array [.string "./a.js", .string "./b.js"]) =
      .ok (.item { path := "./a.js", query := "./b.js" }) := rfl

end Loader

end HostBoundary
