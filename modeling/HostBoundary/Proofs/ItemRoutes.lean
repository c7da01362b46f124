-- SUMMARY: Items read from the tree of a text are those read from the document that the text denotes, since no type of items but loaders sees a repeated key.
import HostBoundary.Proofs.ItemType
import HostBoundary.Proofs.Json.RoundTrip

/-!
# Two routes from a text to its items

The tree of a text may repeat keys, and the document that the text denotes may not. A text is read as one
item or as a list of items by either route: from its tree, before the end of the text is looked at, or from
its document, after that. Almost every codec reads a document as it would read it with repeated keys merged,
so both routes give the same. The codec of loaders does not: it refuses a field that is there twice.
-/

namespace HostBoundary

/-! ## Whole texts -/

namespace Json

variable {α β : Type} {scan : Scan α} {text : String}

/-- A whole text is read if its beginning is, if what was found can be finished, and if nothing but blanks
is left. -/
theorem readAll_eq_ok_iff {finish : α → Except Cause β} {result : β} :
    readAll scan finish text = .ok result ↔ ∃ found rest,
      scan text.toList = .ok (found, rest) ∧ finish found = .ok result ∧ skipBlank rest = [] := by
  unfold readAll
  cases scan text.toList with
  | error stop => simp
  | ok read =>
    obtain ⟨found, rest⟩ := read
    cases hfinish : finish found with
    | error cause => simp [hfinish]
    | ok other =>
      cases hend : skipBlank rest with
      | nil => simp [hfinish, hend]
      | cons c left => simp [hfinish, hend]

/-- Looking at the end of the text before finishing makes no difference to what is read. -/
theorem readAll_eq_ok_iff_finish {finish : α → Except Cause β} {result : β} :
    readAll scan finish text = .ok result ↔
      ∃ found, readAll scan .ok text = .ok found ∧ finish found = .ok result := by
  simp only [readAll_eq_ok_iff, Except.ok.injEq]
  constructor
  · rintro ⟨found, rest, hscan, hfinish, hend⟩
    exact ⟨found, ⟨found, rest, hscan, rfl, hend⟩, hfinish⟩
  · rintro ⟨found, ⟨same, rest, hscan, rfl, hend⟩, hfinish⟩
    exact ⟨same, rest, hscan, hfinish, hend⟩

theorem parse_eq_ok_iff {doc : Json} :
    parse text = .ok doc ↔ ∃ tree, parseTree text = .ok tree ∧ tree.merged = doc := by
  unfold parse
  cases parseTree text with
  | error error => simp [Except.map]
  | ok tree => simp [Except.map]

theorem merged_merged (doc : Json) : doc.merged.merged = doc.merged := merged_eq_self (isMerged_merged doc)

end Json

/-! ## Repeated keys -/

namespace Codec

variable {α : Type} {codec : Codec α}

/-- A codec that reads a document as it would read it with repeated keys merged. -/
def IgnoresRepeats (codec : Codec α) : Prop := ∀ doc, codec.decode doc.merged = codec.decode doc

namespace IgnoresRepeats

/-- Keys matter to no codec that reads neither arrays nor objects. -/
theorem of_scalar (harray : ∀ items, codec.decode (.array items) = none)
    (hobject : ∀ fields, codec.decode (.object fields) = none) : codec.IgnoresRepeats := by
  intro doc
  cases doc with
  | null | bool | number | string => rfl
  | array items => exact (harray _).trans (harray items).symm
  | object fields => exact (hobject _).trans (hobject fields).symm

theorem json : Codec.json.IgnoresRepeats := fun doc => congrArg some doc.merged_merged

theorem list (h : codec.IgnoresRepeats) : codec.list.IgnoresRepeats := by
  intro doc
  cases doc with
  | array items =>
    have hitems : codec.decode ∘ Json.merged = codec.decode := funext h
    have hread (items : List Json) : codec.list.decode (.array items) = items.mapM codec.decode := rfl
    rw [Json.merged, hread, hread, Json.mergedItems_eq_map, List.mapM_map, hitems]
  | null | bool | number | string | object => rfl

theorem optional (h : codec.IgnoresRepeats) : codec.optional.IgnoresRepeats := by
  intro doc
  cases doc with
  | null => rfl
  | bool | number | string | array | object => exact congrArg (Option.map some) (h _)

theorem itemOrList (h : codec.IgnoresRepeats) : (ItemOrList.codec codec).IgnoresRepeats := by
  intro doc
  change ItemOrList.decode codec doc.merged = ItemOrList.decode codec doc
  rw [ItemOrList.decode, ItemOrList.decode, h.list doc, h doc]

end IgnoresRepeats

end Codec

namespace ItemType

open Codec

theorem ignoresRepeats_exceptionCodec : exceptionCodec.IgnoresRepeats := by
  intro doc
  cases doc with
  | object fields =>
    exact congrArg (fun fields => some (Exception.mk fields))
      (Json.object.inj (Json.merged_merged (.object fields)))
  | null | bool | number | string | array => rfl

/-- Loaders are the only items to which a repeated key matters. -/
theorem ignoresRepeats_codec {type : ItemType} (h : type ≠ .loader) : type.codec.IgnoresRepeats := by
  cases type with
  | text | int64 | byte | float | bool => exact .of_scalar (fun _ => rfl) (fun _ => rfl)
  | json => exact .json
  | texts => exact .list (.of_scalar (fun _ => rfl) (fun _ => rfl))
  | optionalText => exact .optional (.of_scalar (fun _ => rfl) (fun _ => rfl))
  | loader => exact absurd rfl h
  | textOrTexts => exact .itemOrList (.of_scalar (fun _ => rfl) (fun _ => rfl))
  | exception => exact ignoresRepeats_exceptionCodec

end ItemType

/-! ## Both routes -/

namespace ItemOrList

variable {α : Type} {codec : Codec α} {text : String} {x : ItemOrList α}

theorem ofText_eq_ok_iff : ofText codec text = .ok x ↔
    ∃ tree, Json.parseTree text = .ok tree ∧ decode codec tree = some x := by
  simp only [← ofJson_eq_ok_iff]
  exact Json.readAll_eq_ok_iff_finish

theorem ofDocumentText_eq_ok_iff : ofDocumentText codec text = .ok x ↔
    ∃ tree, Json.parseTree text = .ok tree ∧ decode codec tree.merged = some x := by
  have hparsed : ofDocumentText codec text = .ok x ↔
      ∃ doc, Json.parse text = .ok doc ∧ ofJson codec doc = .ok x := by
    unfold ofDocumentText
    cases Json.parse text with
    | error error => simp [bind, Except.bind]
    | ok doc =>
      simp only [bind, Except.bind, Except.ok.injEq, exists_eq_left']
      cases ofJson codec doc with
      | error cause => simp
      | ok found => simp
  simp only [hparsed, Json.parse_eq_ok_iff, ofJson_eq_ok_iff]
  constructor
  · rintro ⟨doc, ⟨tree, htree, rfl⟩, hread⟩
    exact ⟨tree, htree, hread⟩
  · rintro ⟨tree, htree, hread⟩
    exact ⟨tree.merged, ⟨tree, htree, rfl⟩, hread⟩

/-- If the tree of a text, should it have one, is decoded as it would be with repeated keys merged, both
routes read the same. -/
theorem ofText_eq_ok_iff_ofDocumentText
    (h : ∀ tree, Json.parseTree text = .ok tree → decode codec tree.merged = decode codec tree) :
    ofText codec text = .ok x ↔ ofDocumentText codec text = .ok x := by
  rw [ofText_eq_ok_iff, ofDocumentText_eq_ok_iff]
  exact exists_congr fun tree => and_congr_right fun htree => by rw [h tree htree]

end ItemOrList

namespace ItemType

/-- Whatever one route reads a text as, an item or a list of items, the other reads it as the same, with
the same items in the same order, and what the one refuses the other does, too. For loaders, no key may
repeat in the text. -/
theorem routes_agree (type : ItemType) (text : String)
    (h : type = .loader → ∀ tree, Json.parseTree text = .ok tree → tree.IsMerged)
    (x : ItemOrList type.Value) :
    ItemOrList.ofText type.codec text = .ok x ↔ ItemOrList.ofDocumentText type.codec text = .ok x := by
  refine ItemOrList.ofText_eq_ok_iff_ofDocumentText fun tree htree => ?_
  by_cases hloader : type = .loader
  · rw [Json.merged_eq_self (h hloader tree htree)]
  · exact (ignoresRepeats_codec hloader).itemOrList tree

/-- A text of loaders, one of which is an array and another has an unknown field. -/
def loadersText : String :=
  " [ [\"a.js\", \"?q\"] ,\n" ++
    "\x7b\"path\": \"b.js\", \"other\": \x7b\"path\": 1\x7d, \"fragment\": \"\\u0023\"\x7d ] "

/-- The tree of that text. -/
def loadersTree : Json :=
  .array [.array [.string "a.js", .string "?q"],
    .object [("path", .string "b.js"), ("other", .object [("path", .number (.int 1 (by decide)))]),
      ("fragment", .string "#")]]

/-- No key repeats in the text of loaders, and both routes read it as the list of them. -/
theorem loadersText_read_alike :
    let loaders : List Loader := [{ path := "a.js", query := "?q" }, { path := "b.js", fragment := "#" }]
    Json.parseTree loadersText = .ok loadersTree ∧ loadersTree.IsMerged ∧
      ItemOrList.ofText Loader.codec loadersText = .ok (.list loaders) ∧
      ItemOrList.ofDocumentText Loader.codec loadersText = .ok (.list loaders) := by
  intro loaders
  have htree : Json.parseTree loadersText = .ok loadersTree := Json.eq_ok_of_write rfl (by decide +kernel)
  have hmerged : loadersTree.IsMerged :=
    ⟨⟨trivial, trivial, trivial⟩,
      ⟨by decide, trivial, ⟨by decide, trivial, trivial⟩, trivial, trivial⟩, trivial⟩
  have hread : ItemOrList.ofText Loader.codec loadersText = .ok (.list loaders) :=
    ItemOrList.ofText_eq_ok_iff.mpr ⟨loadersTree, htree, rfl⟩
  have hkeys : ∀ tree, Json.parseTree loadersText = .ok tree → tree.IsMerged := by
    intro tree hsame
    cases htree.symm.trans hsame
    exact hmerged
  exact ⟨htree, hmerged, hread, (routes_agree .loader loadersText (fun _ => hkeys) _).mp hread⟩

/-- A repeated field of a loader is refused in the tree of the text, and the last one counts in its document. -/
example :
    ((ItemOrList.ofText Loader.codec "\x7b\"path\":\"a\",\"path\":\"b\"\x7d").toOption.map (·.toList),
      (ItemOrList.ofDocumentText Loader.codec "\x7b\"path\":\"a\",\"path\":\"b\"\x7d").toOption.map (·.toList)) =
      (none, some [({ path := "b" } : Loader)]) := by decide +kernel

end ItemType

end HostBoundary
