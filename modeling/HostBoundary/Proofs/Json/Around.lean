-- SUMMARY: Reading a text around a gap: whatever is put into the gap of an array or object text is found at its place, and where it cannot be read the whole text cannot.
import HostBoundary.Proofs.Json.Local
import HostBoundary.Proofs.Json.Places
import Mathlib.Data.List.DropRight
import Mathlib.Data.List.Forall2
import Mathlib.Data.List.TakeWhile

/-!
# Texts around a gap

A text with a gap has arrays and objects around the gap, with any items and fields before it and behind it, and
any blanks. What is put into the gap is read as it would be by itself, since the reader looks no further. The
others are there already when it is read, or are read behind it, so the document has a hole where the text has
the gap.
-/

namespace HostBoundary

namespace Json

/-! ## Texts that stand anywhere -/

/-- A text is read at a depth as a document, if it is read at all, wherever it stands. It can stand in brackets
since it does not begin with the end of them. -/
structure IsRead (n : Nat) (text : List Char) (outcome : Except Cause Json) : Prop where
  starts : ∃ c cs, skipBlank text = c :: cs ∧ ∀ bracket : Bracket, c ≠ bracket.closing
  gives : ∀ rest, EndsNumber rest →
    Gives (skipBlank · = skipBlank rest) outcome (scanValue n (text ++ rest))

/-! ## Blanks -/

variable {n : Nat} {text before behind rest : List Char} {outcome : Except Cause Json}

theorem skipBlank_append_of_nil (h : skipBlank before = []) : skipBlank (before ++ rest) = skipBlank rest := by
  rw [skipBlank, List.dropWhile_append_of_pos (List.dropWhile_eq_nil_iff.mp h), skipBlank]

theorem skipBlank_skipBlank_append (cs rest : List Char) :
    skipBlank (skipBlank cs ++ rest) = skipBlank (cs ++ rest) := by
  cases hskip : skipBlank cs with
  | nil => rw [skipBlank_append_of_nil hskip, List.nil_append]
  | cons c left =>
    have hagain : skipBlank (c :: left) = c :: left := hskip ▸ List.dropWhile_idempotent isBlank cs
    rw [skipBlank_append_of_cons hskip, skipBlank_append_of_cons hagain]

theorem endsNumber_of_skipBlank (h : skipBlank behind = []) (hrest : EndsNumber rest) :
    EndsNumber (behind ++ rest) := by
  cases behind with
  | nil => exact hrest
  | cons c more =>
    have hc : isBlank c = true := List.dropWhile_eq_nil_iff.mp h c List.mem_cons_self
    refine endsNumber_cons _ ?_
    simp only [isBlank, Bool.or_eq_true, beq_iff_eq] at hc
    obtain ((rfl | rfl) | rfl) | rfl := hc
    · decide
    · decide
    · decide
    · decide

/-- A value is read from its first character on that is not blank. -/
theorem scanValue_congr {other : List Char} (h : skipBlank text = skipBlank other) :
    scanValue n text = scanValue n other := by
  obtain ⟨inner, hn⟩ := exists_scanValue_eq n
  rw [hn, scanForm, scanForm, h]

theorem IsRead.blanks (h : IsRead n text outcome) (hbefore : skipBlank before = [])
    (hbehind : skipBlank behind = []) : IsRead n (before ++ text ++ behind) outcome where
  starts := by
    obtain ⟨c, cs, hskip, hc⟩ := h.starts
    refine ⟨c, cs ++ behind, ?_, hc⟩
    rw [List.append_assoc, skipBlank_append_of_nil hbefore, skipBlank_append_of_cons hskip]
  gives rest hrest := by
    have hskip : skipBlank (before ++ text ++ behind ++ rest) = skipBlank (text ++ (behind ++ rest)) := by
      rw [List.append_assoc, List.append_assoc, skipBlank_append_of_nil hbefore]
    rw [scanValue_congr hskip]
    refine (h.gives _ (endsNumber_of_skipBlank hbehind hrest)).mono fun left hleft => ?_
    exact hleft.trans (skipBlank_append_of_nil hbehind)

/-! ## Texts that are read -/

/-- A text is a document at a depth: it is read as that, and nothing but blanks is left. -/
def IsText (n : Nat) (text : List Char) (doc : Json) : Prop :=
  ∃ left, scanValue n text = .ok (doc, left) ∧ skipBlank left = []

/-- No value begins with a closing bracket. -/
theorem starts_of_scanValue {doc : Json} (h : scanValue n text = .ok (doc, rest)) :
    ∃ c cs, skipBlank text = c :: cs ∧ ∀ bracket : Bracket, c ≠ bracket.closing := by
  obtain ⟨inner, hn⟩ := exists_scanValue_eq n
  rw [hn, scanForm] at h
  cases hskip : skipBlank text with
  | nil =>
    rw [hskip] at h
    cases h
  | cons c cs =>
    refine ⟨c, cs, rfl, fun bracket hc => ?_⟩
    rw [hskip] at h
    subst hc
    cases bracket with
    | list => cases h
    | object => cases h

/-- A text that is read by itself is read anywhere. -/
theorem IsText.isRead {doc : Json} (h : IsText n text doc) : IsRead n text (.ok doc) := by
  obtain ⟨left, hread, hleft⟩ := h
  refine ⟨starts_of_scanValue hread, fun rest hrest => ?_⟩
  rw [isLocal_scanValue n hread hrest]
  exact .found (skipBlank_append_of_nil hleft)

/-- Every document of integers is read from its compact form, if it is not too deep. -/
theorem isText_write {doc : Json} (h : doc.isIntegral) (hdepth : doc.depth ≤ n) : IsText n doc.write doc := by
  have hread := (scanValue_write h n [] endsNumber_nil).1 hdepth
  rw [List.append_nil] at hread
  exact ⟨[], hread, rfl⟩

/-- An integer is read as the number that is found there. -/
theorem isRead_integer (n : Nat) (m : Int) :
    IsRead n (Decimal.integer m) (Json.number <$> writtenNumber m) where
  starts := by
    obtain ⟨c, cs, hwrite, hc⟩ := exists_integer_eq_cons m
    rw [hwrite]
    obtain rfl | hdigit := hc
    · refine ⟨'-', cs, rfl, fun bracket => ?_⟩
      cases bracket with
      | list => decide
      | object => decide
    · refine ⟨c, cs, skipBlank_cons (isBlank_of_isDigit hdigit), fun bracket => ne_of_isDigit hdigit ?_⟩
      cases bracket with
      | list => rfl
      | object => rfl
  gives rest hrest := by
    obtain ⟨inner, hn⟩ := exists_scanValue_eq n
    rw [hn, scanForm_integer_eq, scanNumber_integer_eq m hrest]
    cases writtenNumber m with
    | error cause => exact .stopped rfl
    | ok found => exact .found rfl

/-! ## Arrays and objects -/

theorem IsRead.isReadIn (h : IsRead n text outcome) :
    IsReadIn .list (scanItem (scanValue n)) text outcome where
  starts := by
    obtain ⟨c, cs, hskip, hc⟩ := h.starts
    exact ⟨c, cs, hskip, hc .list⟩
  gives found rest hrest := by
    rw [scanItem, scanValue_congr (skipBlank_skipBlank_append text rest)]
    exact (h.gives rest hrest).map fun item => found ++ [item]

/-- A text is a key with its colon, and ends there. -/
def IsKey (text : List Char) (key : String) : Prop :=
  ∃ left, scanKey (skipBlank text) = .ok (key, left) ∧ scanColon left = .ok []

/-- A text is a field at a depth: a key with its colon, and behind it the text of a document. -/
inductive IsField (n : Nat) : List Char → String × Json → Prop where
  | mk {text valueText : List Char} {key : String} {value : Json} (hkey : IsKey text key)
      (hvalue : IsText n valueText value) : IsField n (text ++ valueText) (key, value)

theorem IsRead.isReadIn_field (h : IsRead n text outcome) {keyText : List Char} {key : String}
    (hkey : IsKey keyText key) :
    IsReadIn .object (scanField (scanValue n)) (keyText ++ text) ((fun doc => (key, doc)) <$> outcome) := by
  obtain ⟨left, hscan, hcolon⟩ := hkey
  obtain ⟨cs, hquote⟩ : ∃ cs, skipBlank keyText = '"' :: cs := by
    unfold scanKey at hscan
    split at hscan
    · next cs heq => exact ⟨cs, heq⟩
    · cases hscan
  have hskip : skipBlank (keyText ++ text) = skipBlank keyText ++ text := by
    rw [skipBlank_append_of_cons hquote, hquote, List.cons_append]
  constructor
  · exact ⟨'"', cs ++ text, by rw [hskip, hquote, List.cons_append], by decide⟩
  · intro found rest hrest
    have hfield : scanField (scanValue n) found (skipBlank (keyText ++ text) ++ rest) =
        scanValue n (text ++ rest) >>= fun read => .ok (found ++ [(key, read.1)], read.2) := by
      rw [hskip, List.append_assoc, scanField, scanKey_append hscan]
      change scanColon (left ++ (text ++ rest)) >>= _ = _
      rw [scanColon_append hcolon]
      rfl
    rw [hfield, Functor.map_map]
    exact (h.gives rest hrest).map fun doc => found ++ [(key, doc)]

/-- Every key is read from its literal. -/
theorem isKey_write (key : String) : IsKey (StringLiteral.write key ++ [':']) key := by
  have hform (cs : List Char) : scanKey ('"' :: cs) = StringLiteral.scan cs := rfl
  have hwrite : StringLiteral.write key = '"' :: (StringLiteral.write key).tail := rfl
  refine ⟨[':'], ?_, rfl⟩
  rw [hwrite, List.cons_append, skipBlank_cons (by decide), hform, StringLiteral.scan_write]

theorem IsField.isReadIn {field : String × Json} (h : IsField n text field) :
    IsReadIn .object (scanField (scanValue n)) text (.ok field) := by
  cases h with
  | mk hkey hvalue => exact hvalue.isRead.isReadIn_field hkey

theorem Bracket.list_ne_closing (bracket : Bracket) : '[' ≠ bracket.closing := by
  cases bracket with
  | list => decide
  | object => decide

theorem Bracket.object_ne_closing (bracket : Bracket) : '{' ≠ bracket.closing := by
  cases bracket with
  | list => decide
  | object => decide

/-- An array is read item by item. -/
theorem IsRead.array {texts : List (List Char)} {outcomes : List (Except Cause Json)}
    (h : List.Forall₂ (IsRead n) texts outcomes) :
    IsRead (n + 1) ('[' :: (Text.join ',' texts ++ [']'])) (Json.array <$> outcomes.mapM id) where
  starts := ⟨_, _, skipBlank_cons (by decide), Bracket.list_ne_closing⟩
  gives rest _ := by
    rw [List.cons_append, List.append_assoc]
    exact ((gives_elements (h.imp fun _ _ => IsRead.isReadIn) rest).map Json.array).mono fun left hleft =>
      congrArg skipBlank hleft

/-- An object is read field by field. -/
theorem IsRead.object {texts : List (List Char)} {outcomes : List (Except Cause (String × Json))}
    (h : List.Forall₂ (IsReadIn .object (scanField (scanValue n))) texts outcomes) :
    IsRead (n + 1) ('{' :: (Text.join ',' texts ++ ['}'])) (Json.object <$> outcomes.mapM id) where
  starts := ⟨_, _, skipBlank_cons (by decide), Bracket.object_ne_closing⟩
  gives rest _ := by
    rw [List.cons_append, List.append_assoc]
    exact ((gives_elements h rest).map Json.object).mono fun left hleft => congrArg skipBlank hleft

/-! ## The gap -/

/-- A text around a gap: the arrays and objects that stand around it, no more than a number of them inside one
another, and the place of the gap in the document. The key through which one gets there is not given another
value later. -/
inductive Around : Nat → (List Char → List Char) → List Selector → Prop where
  | gap (n : Nat) : Around n (fun text => text) []
  | blanks {n : Nat} {around : List Char → List Char} {place : List Selector} {before behind : List Char}
      (h : Around n around place) (hbefore : skipBlank before = []) (hbehind : skipBlank behind = []) :
      Around n (fun text => before ++ around text ++ behind) place
  | item {n : Nat} {around : List Char → List Char} {place : List Selector} {lead trail : List (List Char)}
      {before behind : List Json} (h : Around n around place)
      (hlead : List.Forall₂ (IsText n) lead before) (htrail : List.Forall₂ (IsText n) trail behind) :
      Around (n + 1) (fun text => '[' :: (Text.join ',' (lead ++ around text :: trail) ++ [']']))
        (.item before.length :: place)
  | field {n : Nat} {around : List Char → List Char} {place : List Selector} {lead trail : List (List Char)}
      {before behind : Fields} {keyText : List Char} {key : String} (h : Around n around place)
      (hkey : IsKey keyText key) (hlead : List.Forall₂ (IsField n) lead before)
      (htrail : List.Forall₂ (IsField n) trail behind) (hlast : key ∉ Assoc.keys behind) :
      Around (n + 1)
        (fun text => '{' :: (Text.join ',' (lead ++ (keyText ++ around text) :: trail) ++ ['}']))
        (.field key :: place)

/-- The elements before and behind one that may not be found are found. -/
theorem mapM_append_cons {α : Type} (lead trail : List α) (outcome : Except Cause α) :
    (lead.map Except.ok ++ outcome :: trail.map Except.ok).mapM id =
      (fun a => lead ++ a :: trail) <$> outcome := by
  have hall (as : List α) : (as.map (Except.ok : α → Except Cause α)).mapM id = .ok as := by
    induction as with
    | nil => rfl
    | cons a as ih =>
      rw [List.map_cons, List.mapM_cons, ih]
      rfl
  rw [List.mapM_append, hall, List.mapM_cons, hall]
  cases outcome with
  | error cause => rfl
  | ok a => rfl

theorem forall₂_append_cons {α : Type} {given : List Char → α → Prop}
    {read : List Char → Except Cause α → Prop} {lead trail : List (List Char)} {before behind : List α}
    {part : List Char} {outcome : Except Cause α} (hlead : List.Forall₂ given lead before)
    (htrail : List.Forall₂ given trail behind) (hgiven : ∀ part a, given part a → read part (.ok a))
    (hpart : read part outcome) :
    List.Forall₂ read (lead ++ part :: trail) (before.map .ok ++ outcome :: behind.map .ok) :=
  List.rel_append (List.forall₂_map_right_iff.mpr (hlead.imp hgiven))
    (.cons hpart (List.forall₂_map_right_iff.mpr (htrail.imp hgiven)))

/-- The document that is read around the gap, repeated keys in place, has a hole where the gap is once the keys
are merged. -/
theorem Around.exists_isHole {around : List Char → List Char} {place : List Selector}
    (h : Around n around place) : ∃ tree fill, IsHole place fill ∧
      (∀ doc : Json, (tree doc).merged = fill doc.merged) ∧
      ∀ text outcome, (∀ depth, IsRead depth text outcome) →
        IsRead n (around text) (tree <$> outcome) := by
  -- What is put into the gap is read at less and less depth, so nothing is assumed of the depth at which it is.
  induction h with
  | gap n =>
    refine ⟨fun doc => doc, fun doc => doc, .whole, fun _ => rfl, fun text outcome hread => ?_⟩
    rw [id_map']
    exact hread n
  | blanks h hbefore hbehind ih =>
    obtain ⟨tree, fill, hhole, hmerged, hreads⟩ := ih
    exact ⟨tree, fill, hhole, hmerged, fun text outcome hread =>
      (hreads text outcome hread).blanks hbefore hbehind⟩
  | @item n around place lead trail before behind h hlead htrail ih =>
    obtain ⟨tree, fill, hhole, hmerged, hreads⟩ := ih
    have hitem := hhole.item (before.map merged) (behind.map merged)
    rw [List.length_map] at hitem
    refine ⟨fun doc => array (before ++ tree doc :: behind), _, hitem, fun doc => ?_,
      fun text outcome hread => ?_⟩
    · rw [merged_item, hmerged]
    · have harray := IsRead.array
        (forall₂_append_cons hlead htrail (fun _ _ => IsText.isRead) (hreads text outcome hread))
      rwa [mapM_append_cons, Functor.map_map, Functor.map_map] at harray
  | @field n around place lead trail before behind keyText key h hkey hlead htrail hlast ih =>
    obtain ⟨tree, fill, hhole, hmerged, hreads⟩ := ih
    obtain ⟨front, back, hfront, hfield⟩ := exists_merged_field before hlast
    refine ⟨fun doc => object (before ++ (key, tree doc) :: behind), _, hhole.field back hfront, fun doc => ?_,
      fun text outcome hread => ?_⟩
    · rw [hfield, hmerged]
    · have hvalue := (hreads text outcome hread).isReadIn_field hkey
      have hobject := IsRead.object (forall₂_append_cons hlead htrail (fun _ _ => IsField.isReadIn) hvalue)
      rwa [mapM_append_cons, Functor.map_map, Functor.map_map, Functor.map_map] at hobject

/-! ## Whole texts -/

/-- A text that is read with all that is inside it is parsed, and repeated keys are merged. -/
theorem parse_of_isRead {doc : Json} (h : IsRead maxDepth text (.ok doc)) :
    parse (String.ofList text) = .ok doc.merged := by
  have hgives := h.gives [] endsNumber_nil
  rw [List.append_nil] at hgives
  cases hread : scanValue maxDepth text with
  | error stop =>
    rw [hread] at hgives
    cases hgives
  | ok read =>
    rw [hread] at hgives
    cases hgives with
    | found hleft =>
      rw [parse, parseTree, readAll, String.toList_ofList, hread]
      simp only [hleft]
      rfl

/-- A text with something inside it that cannot be read is not parsed, for the cause that there is. -/
theorem exists_parse_eq_error_of_isRead {cause : Cause} (h : IsRead maxDepth text (.error cause)) :
    ∃ position, parse (String.ofList text) = .error ⟨cause, some position⟩ := by
  have hgives := h.gives [] endsNumber_nil
  rw [List.append_nil] at hgives
  cases hread : scanValue maxDepth text with
  | error stop =>
    rw [hread] at hgives
    cases hgives with
    | stopped hcause =>
      rw [parse, parseTree, readAll, String.toList_ofList, hread, ← hcause]
      exact ⟨_, rfl⟩
  | ok read =>
    rw [hread] at hgives
    cases hgives

end Json

end HostBoundary
