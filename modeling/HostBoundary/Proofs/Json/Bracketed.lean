-- SUMMARY: Reading a bracketed sequence element by element: all of it if every element can be read, and otherwise a stop for the cause for which one cannot.
import HostBoundary.Proofs.Json.Number
import HostBoundary.Text.Split
import Mathlib.Data.List.Forall2

/-!
# Bracketed sequences

Arrays and objects are read by one loop. If each element is read whatever comes behind, so is the
sequence, with any blanks between its elements. If an element cannot be read, the loop gets as far as
that element and stops there for the same cause. In compact form the only such cause is depth.
-/

namespace HostBoundary

namespace Json

/-! ## What reading comes to -/

/-- Reading finds a thing and leaves the rest if the thing fits, and stops for depth if not. -/
def Reads {α : Type} (fits : Prop) (found : α) (rest : List Char)
    (result : Except Stop (α × List Char)) : Prop :=
  (fits → result = .ok (found, rest)) ∧
    (¬ fits → ∃ stop, result = .error stop ∧ stop.cause = .tooDeep)

namespace Reads

variable {α β : Type} {fits more : Prop} {found : α} {rest : List Char}
variable {result : Except Stop (α × List Char)}

theorem ok (found : α) (rest : List Char) : Reads True found rest (.ok (found, rest)) :=
  ⟨fun _ => rfl, fun h => absurd trivial h⟩

theorem of_iff (h : Reads fits found rest result) (hiff : more ↔ fits) :
    Reads more found rest result :=
  ⟨fun hmore => h.1 (hiff.mp hmore), fun hmore => h.2 (mt hiff.mpr hmore)⟩

/-- What is made of the thing read is found wherever the thing is. -/
theorem map (h : Reads fits found rest result) (f : α → β) :
    Reads fits (f found) rest (do let (a, left) ← result; .ok (f a, left)) := by
  constructor
  · intro hfits
    rw [h.1 hfits]
    rfl
  · intro hnot
    obtain ⟨stop, rfl, hcause⟩ := h.2 hnot
    exact ⟨stop, rfl, hcause⟩

end Reads

/-- What is left of a text is as it should be where a thing is found. Otherwise reading is stopped, for the
cause for which nothing is found. -/
inductive Gives {α : Type} (leaves : List Char → Prop) :
    Except Cause α → Except Stop (α × List Char) → Prop where
  | found {a : α} {left : List Char} (h : leaves left) : Gives leaves (.ok a) (.ok (a, left))
  | stopped {stop : Stop} {cause : Cause} (h : stop.cause = cause) : Gives leaves (.error cause) (.error stop)

namespace Gives

variable {α β : Type} {leaves leavesMore : List Char → Prop} {outcome : Except Cause α}
variable {result : Except Stop (α × List Char)}

theorem bind {next : α × List Char → Except Stop (β × List Char)} {g : α → Except Cause β}
    (h : Gives leaves outcome result)
    (hnext : ∀ a left, leaves left → Gives leavesMore (g a) (next (a, left))) :
    Gives leavesMore (outcome >>= g) (result >>= next) := by
  cases h with
  | found hleft => exact hnext _ _ hleft
  | stopped hcause => exact .stopped hcause

theorem map (h : Gives leaves outcome result) (f : α → β) :
    Gives leaves (f <$> outcome) (do let (a, left) ← result; .ok (f a, left)) := by
  cases h with
  | found hleft => exact .found hleft
  | stopped hcause => exact .stopped hcause

theorem mono (h : Gives leaves outcome result) (hleaves : ∀ left, leaves left → leavesMore left) :
    Gives leavesMore outcome result := by
  cases h with
  | found hleft => exact .found (hleaves _ hleft)
  | stopped hcause => exact .stopped hcause

end Gives

/-- What comes of reading a thing that is found if it fits and is too deep if not. -/
def ifFits {α : Type} (fits : Prop) [Decidable fits] (found : α) : Except Cause α :=
  if fits then .ok found else .error .tooDeep

section

variable {α : Type} {fits : Prop} [Decidable fits] {found : α} {rest : List Char}
variable {result : Except Stop (α × List Char)}

theorem map_ifFits {β : Type} (f : α → β) : f <$> ifFits fits found = ifFits fits (f found) := by
  rw [ifFits, ifFits]
  split
  · rfl
  · rfl

theorem gives_ifFits_iff : Gives (· = rest) (ifFits fits found) result ↔ Reads fits found rest result := by
  by_cases hfits : fits
  · rw [ifFits, if_pos hfits, Reads, and_iff_left (absurd hfits), forall_prop_of_true hfits]
    constructor
    · intro h
      cases h with
      | found hleft => rw [hleft]
    · rintro rfl
      exact .found rfl
  · rw [ifFits, if_neg hfits, Reads, and_iff_right fun h => absurd h hfits, forall_prop_of_true hfits]
    constructor
    · intro h
      cases h with
      | stopped hcause => exact ⟨_, rfl, hcause⟩
    · rintro ⟨stop, rfl, hcause⟩
      exact .stopped hcause

end

/-! ## Blanks -/

section

variable {cs rest more : List Char}

/-- The beginning of a part of a document: no blank. -/
theorem skipBlank_cons {c : Char} (h : isBlank c = false) : skipBlank (c :: cs) = c :: cs := by
  rw [skipBlank, List.dropWhile_cons_of_neg]
  rw [h]
  exact Bool.false_ne_true

/-- The first character that is not blank stays the first one. -/
theorem skipBlank_append_of_cons {c : Char} (h : skipBlank cs = c :: rest) :
    skipBlank (cs ++ more) = c :: (rest ++ more) := by
  induction cs with
  | nil => cases h
  | cons d ds ih =>
    rw [skipBlank, List.dropWhile_cons] at h
    split at h
    · next hd =>
      rw [List.cons_append, skipBlank, List.dropWhile_cons_of_pos hd]
      exact ih h
    · next hd =>
      cases h
      rw [List.cons_append, skipBlank, List.dropWhile_cons_of_neg hd]

end

/-- No bracket and no comma goes on with a number. -/
theorem Bracket.endsNumber_closing (bracket : Bracket) (rest : List Char) :
    EndsNumber (bracket.closing :: rest) := by
  cases bracket with
  | list => exact endsNumber_cons rest (by decide)
  | object => exact endsNumber_cons rest (by decide)

theorem Bracket.isBlank_closing (bracket : Bracket) : isBlank bracket.closing = false := by
  cases bracket with
  | list => rfl
  | object => rfl

theorem Bracket.closing_ne_comma (bracket : Bracket) : ',' ≠ bracket.closing := by
  cases bracket with
  | list => decide
  | object => decide

/-! ## Sequences -/

section

variable {α : Type} {bracket : Bracket} {element : List α → Scan (List α)} {rest : List Char}
variable {texts : List (List Char)} {outcomes : List (Except Cause α)}

/-- A text is read in brackets as one more element, if it is read at all, and what comes behind it is left but
for blanks. -/
structure IsReadIn (bracket : Bracket) (element : List α → Scan (List α)) (text : List Char)
    (outcome : Except Cause α) : Prop where
  starts : ∃ c cs, skipBlank text = c :: cs ∧ c ≠ bracket.closing
  gives : ∀ found rest, EndsNumber rest → Gives (skipBlank · = skipBlank rest)
    ((fun a => found ++ [a]) <$> outcome) (element found (skipBlank text ++ rest))

/-- The texts after the first, each behind a comma. -/
def behindCommas (texts : List (List Char)) : List Char := texts.flatMap (',' :: ·)

theorem behindCommas_cons (text : List Char) (texts : List (List Char)) :
    behindCommas (text :: texts) = ',' :: (text ++ behindCommas texts) := by
  rw [behindCommas, List.flatMap_cons, List.cons_append, behindCommas]

theorem join_cons_eq (text : List Char) (texts : List (List Char)) :
    Text.join ',' (text :: texts) = text ++ behindCommas texts := by
  induction texts generalizing text with
  | nil => exact (List.append_nil text).symm
  | cons next more ih =>
    rw [Text.join, ih next, behindCommas_cons]
    exact List.cons_ne_nil _ _

/-- What stands behind an element does not go on with a number. -/
theorem endsNumber_behindCommas (bracket : Bracket) (texts : List (List Char)) (rest : List Char) :
    EndsNumber (behindCommas texts ++ bracket.closing :: rest) := by
  cases texts with
  | nil => exact bracket.endsNumber_closing rest
  | cons text more =>
    rw [behindCommas_cons]
    exact endsNumber_cons _ (by decide)

/-- There are as many characters as elements to come, so there are turns enough. -/
theorem length_le_length_behindCommas (bracket : Bracket) (texts : List (List Char)) (rest : List Char) :
    texts.length ≤ (skipBlank (behindCommas texts ++ bracket.closing :: rest)).length := by
  have hlength : texts.length ≤ (behindCommas texts).length := by
    induction texts with
    | nil => exact Nat.le_refl 0
    | cons text more ih =>
      rw [behindCommas_cons, List.length_cons, List.length_cons, List.length_append]
      omega
  cases texts with
  | nil => exact Nat.zero_le _
  | cons text more =>
    rw [behindCommas_cons] at hlength ⊢
    rw [List.cons_append, skipBlank_cons (by decide), ← List.cons_append, List.length_append]
    exact Nat.le_trans hlength (Nat.le_add_right _ _)

theorem moreElements_congr {σ : Type} {element : σ → Scan σ} {state : σ} {cs other : List Char}
    (h : skipBlank cs = skipBlank other) (turns : Nat) :
    moreElements bracket element (turns + 1) state cs =
      moreElements bracket element (turns + 1) state other := by
  rw [moreElements, moreElements, h]

/-- Behind an element that is found come the others, so all are found or one is not. -/
theorem map_mapM_cons (outcome : Except Cause α) (outcomes : List (Except Cause α)) (found : List α) :
    (found ++ ·) <$> (outcome :: outcomes).mapM id =
      ((fun a => found ++ [a]) <$> outcome) >>= fun found => (found ++ ·) <$> outcomes.mapM id := by
  rw [List.mapM_cons]
  cases outcome with
  | error cause => rfl
  | ok a =>
    cases outcomes.mapM id with
    | error cause => rfl
    | ok others => exact congrArg Except.ok (List.append_cons found a others)

/-- After an element the loop reads the others, up to one that cannot be read. -/
theorem gives_moreElements (h : List.Forall₂ (IsReadIn bracket element) texts outcomes) (found : List α)
    {turns : Nat} (hturns : texts.length < turns) {left : List Char}
    (hleft : skipBlank left = skipBlank (behindCommas texts ++ bracket.closing :: rest)) :
    Gives (· = rest) ((found ++ ·) <$> outcomes.mapM id)
      (moreElements bracket element turns found left) := by
  -- What is left has blanks in front where an element left them, so the induction is on the texts to come.
  induction h generalizing found turns left with
  | nil =>
    obtain ⟨turns, rfl⟩ := Nat.exists_eq_add_one.mpr hturns
    have hend : moreElements bracket element (turns + 1) found (bracket.closing :: rest) =
        .ok (found, rest) := by
      rw [moreElements, skipBlank_cons bracket.isBlank_closing]
      exact if_pos rfl
    have hnone : (found ++ ·) <$> ([] : List (Except Cause α)).mapM id = .ok found :=
      congrArg Except.ok (List.append_nil found)
    rw [moreElements_congr hleft, behindCommas, List.flatMap_nil, List.nil_append, hend, hnone]
    exact .found rfl
  | @cons text outcome texts outcomes hfirst _ ih =>
    obtain ⟨turns, rfl⟩ := Nat.exists_eq_add_one.mpr (Nat.zero_lt_of_lt hturns)
    obtain ⟨c, cs, hskip, hc⟩ := hfirst.starts
    have hloop : moreElements bracket element (turns + 1) found left =
        element found (skipBlank text ++ (behindCommas texts ++ bracket.closing :: rest)) >>= fun read =>
          moreElements bracket element turns read.1 read.2 := by
      rw [moreElements_congr hleft, behindCommas_cons, List.cons_append, List.append_assoc, moreElements,
        skipBlank_cons (by decide)]
      simp only [if_neg bracket.closing_ne_comma, if_true]
      rw [skipBlank_append_of_cons hskip, hskip, List.cons_append]
      exact if_neg hc
    rw [hloop, map_mapM_cons]
    refine (hfirst.gives found _ (endsNumber_behindCommas bracket texts rest)).bind ?_
    intro found left hleft
    exact ih found (Nat.lt_of_succ_lt_succ hturns) hleft

/-- The elements are all found, or one of them cannot be read. -/
theorem gives_elements (h : List.Forall₂ (IsReadIn bracket element) texts outcomes) (rest : List Char) :
    Gives (· = rest) (outcomes.mapM id)
      (elements bracket element [] (Text.join ',' texts ++ bracket.closing :: rest)) := by
  cases h with
  | nil =>
    have hend : elements bracket element [] (bracket.closing :: rest) = .ok ([], rest) := by
      rw [elements, skipBlank_cons bracket.isBlank_closing]
      exact if_pos rfl
    exact hend ▸ Gives.found rfl
  | @cons text outcome texts outcomes hfirst hmore =>
    obtain ⟨c, cs, hskip, hc⟩ := hfirst.starts
    have hloop : elements bracket element [] (Text.join ',' (text :: texts) ++ bracket.closing :: rest) =
        element [] (skipBlank text ++ (behindCommas texts ++ bracket.closing :: rest)) >>= fun read =>
          moreElements bracket element (read.2.length + 1) read.1 read.2 := by
      rw [join_cons_eq, List.append_assoc, elements, skipBlank_append_of_cons hskip, hskip, List.cons_append]
      exact if_neg hc
    have hall : (outcome :: outcomes).mapM id = ((fun a => [] ++ [a]) <$> outcome) >>= fun found =>
        (found ++ ·) <$> outcomes.mapM id := by
      rw [← map_mapM_cons]
      exact (id_map' _).symm
    rw [hloop, hall]
    refine (hfirst.gives [] _ (endsNumber_behindCommas bracket texts rest)).bind ?_
    intro found left hleft
    refine gives_moreElements hmore found ?_ hleft
    have hcommas := length_le_length_behindCommas bracket texts rest
    rw [← hleft] at hcommas
    exact Nat.lt_succ_of_le (Nat.le_trans hcommas (List.dropWhile_sublist isBlank).length_le)

end

/-! ## Written sequences -/

section

variable {α : Type} {bracket : Bracket} {element : List α → Scan (List α)}
variable {form : α → List Char} {fits : α → Prop}

/-- An element is read behind others as it was written, whatever comes behind it, if it fits. -/
structure IsElement (bracket : Bracket) (element : List α → Scan (List α)) (form : α → List Char)
    (fits : α → Prop) (a : α) : Prop where
  starts : ∃ c cs, form a = c :: cs ∧ isBlank c = false ∧ c ≠ bracket.closing
  reads : ∀ found rest, EndsNumber rest →
    Reads (fits a) (found ++ [a]) rest (element found (form a ++ rest))

theorem IsElement.isReadIn {a : α} [Decidable (fits a)] (h : IsElement bracket element form fits a) :
    IsReadIn bracket element (form a) (ifFits (fits a) a) := by
  obtain ⟨c, cs, hform, hblank, hc⟩ := h.starts
  have hskip : skipBlank (form a) = form a := by
    rw [hform, skipBlank_cons hblank]
  refine ⟨⟨c, cs, hskip.trans hform, hc⟩, fun found rest hrest => ?_⟩
  rw [hskip, map_ifFits]
  exact (gives_ifFits_iff.mpr (h.reads found rest hrest)).mono fun left hleft => congrArg skipBlank hleft

/-- Elements that all fit are all found. If one does not, that is found out. -/
theorem mapM_ifFits [DecidablePred fits] [∀ as : List α, Decidable (∀ a ∈ as, fits a)]
    (as : List α) :
    (as.map fun a => ifFits (fits a) a).mapM id = ifFits (∀ a ∈ as, fits a) as := by
  induction as with
  | nil =>
    rw [ifFits, if_pos (List.forall_mem_nil _)]
    rfl
  | cons a more ih =>
    rw [List.map_cons, List.mapM_cons, ih, ifFits, ifFits, ifFits]
    by_cases ha : fits a
    · by_cases hmore : ∀ b ∈ more, fits b
      · rw [if_pos ha, if_pos hmore, if_pos (List.forall_mem_cons.mpr ⟨ha, hmore⟩)]
        rfl
      · rw [if_pos ha, if_neg hmore, if_neg fun h => hmore (List.forall_mem_cons.mp h).2]
        rfl
    · rw [if_neg ha, if_neg fun h => ha (List.forall_mem_cons.mp h).1]
      rfl

/-- A bracketed sequence is read as it was written, from after its opening bracket on. -/
theorem elements_join {as : List α} (rest : List Char)
    (has : ∀ a ∈ as, IsElement bracket element form fits a) :
    Reads (∀ a ∈ as, fits a) as rest
      (elements bracket element []
        (Text.join ',' (as.map form) ++ bracket.closing :: rest)) := by
  classical
  have htexts : List.Forall₂ (IsReadIn bracket element) (as.map form)
      (as.map fun a => ifFits (fits a) a) := by
    rw [List.forall₂_map_left_iff, List.forall₂_map_right_iff, List.forall₂_same]
    exact fun a ha => (has a ha).isReadIn
  have hgives := gives_elements htexts rest
  rw [mapM_ifFits] at hgives
  exact gives_ifFits_iff.mp hgives

end

/-! ## What every element keeps -/

section

variable {σ : Type} {bracket : Bracket} {element : σ → Scan σ} (holds : σ → Prop)

/-- What reading one element keeps, reading further elements keeps. -/
theorem holds_of_moreElements
    (helement : ∀ state cs next rest, holds state → element state cs = .ok (next, rest) → holds next)
    {turns : Nat} {state last : σ} {cs rest : List Char} (hstate : holds state)
    (h : moreElements bracket element turns state cs = .ok (last, rest)) : holds last := by
  induction turns generalizing state cs with
  | zero => cases h
  | succ turns ih =>
    rw [moreElements] at h
    split at h
    · cases h
    · split at h
      · cases h
        exact hstate
      · split at h
        · split at h
          · cases h
          · split at h
            · cases h
            · next d more _ _ =>
              cases hread : element state (d :: more) with
              | error stop =>
                rw [hread] at h
                cases h
              | ok read =>
                rw [hread] at h
                exact ih (helement _ _ _ _ hstate hread) h
        · cases h

/-- What reading one element keeps, reading a bracketed sequence keeps. -/
theorem holds_of_elements
    (helement : ∀ state cs next rest, holds state → element state cs = .ok (next, rest) → holds next)
    {state last : σ} {cs rest : List Char} (hstate : holds state)
    (h : elements bracket element state cs = .ok (last, rest)) : holds last := by
  rw [elements] at h
  split at h
  · cases h
  · split at h
    · cases h
      exact hstate
    · next c more _ _ =>
      cases hread : element state (c :: more) with
      | error stop =>
        rw [hread] at h
        cases h
      | ok read =>
        rw [hread] at h
        exact holds_of_moreElements holds helement (helement _ _ _ _ hstate hread) h

end

end Json

end HostBoundary
