-- SUMMARY: Cutting a sequence of characters at every occurrence of one of them, and joining the parts again.

/-!
# Cutting and joining

Cutting a text at a character gives one part more than the character occurs, and none of the parts holds
the character. Cutting joined parts gives the parts back.
-/

namespace HostBoundary

namespace Text

/-- The parts of a text between the occurrences of a character. -/
def split (separator : Char) : List Char → List (List Char)
  | [] => [[]]
  | c :: rest =>
    if c = separator then [] :: split separator rest
    else
      match split separator rest with
      | [] => [[c]]
      | part :: parts => (c :: part) :: parts

/-- The parts with the character between them. -/
def join (separator : Char) : List (List Char) → List Char
  | [] => []
  | [part] => part
  | part :: parts => part ++ separator :: join separator parts

theorem split_ne_nil (separator : Char) (cs : List Char) : split separator cs ≠ [] := by
  cases cs with
  | nil => exact List.cons_ne_nil _ _
  | cons c rest => grind [split]

/-- A text has a first part, which may be empty. -/
theorem exists_split_eq_cons (separator : Char) (cs : List Char) :
    ∃ first later, split separator cs = first :: later :=
  List.exists_cons_of_ne_nil (split_ne_nil separator cs)

theorem join_cons (separator c : Char) (part : List Char) (parts : List (List Char)) :
    join separator ((c :: part) :: parts) = c :: join separator (part :: parts) := by
  cases parts with
  | nil => rfl
  | cons next more => rfl

theorem split_cons_of_ne {separator c : Char} {rest part : List Char} {parts : List (List Char)}
    (hc : c ≠ separator) (h : split separator rest = part :: parts) :
    split separator (c :: rest) = (c :: part) :: parts := by
  rw [split, if_neg hc, h]

/-- A text is cut as any list is cut at an element. -/
theorem split_eq_splitOn (separator : Char) (cs : List Char) :
    split separator cs = cs.splitOn separator := by
  induction cs with
  | nil => rfl
  | cons c rest ih =>
    rw [List.splitOn_cons_eq_if_modifyHead, ← ih]
    obtain ⟨part, parts, h⟩ := exists_split_eq_cons separator rest
    by_cases hc : c = separator
    · rw [split, if_pos hc, if_pos (beq_iff_eq.mpr hc)]
    · rw [split_cons_of_ne hc h, if_neg (by simpa using hc), h, List.modifyHead_cons]

theorem join_eq_intercalate (separator : Char) (parts : List (List Char)) :
    join separator parts = [separator].intercalate parts := by
  induction parts with
  | nil => rfl
  | cons part parts ih =>
    cases parts with
    | nil => simp [join]
    | cons next more =>
      have hjoin : join separator (part :: next :: more) =
          part ++ separator :: join separator (next :: more) := rfl
      rw [hjoin, ih, List.intercalate_cons_cons, List.append_assoc, List.singleton_append]

theorem join_append (separator : Char) (part more : List Char) (parts : List (List Char)) :
    join separator ((part ++ more) :: parts) = part ++ join separator (more :: parts) := by
  induction part with
  | nil => rfl
  | cons c part ih => rw [List.cons_append, join_cons, ih, List.cons_append]

/-- What stands before a part and what stands behind it does not depend on the part. -/
theorem exists_join_append_cons (separator : Char) (lead trail : List (List Char)) :
    ∃ before behind, ∀ part, join separator (lead ++ part :: trail) = before ++ part ++ behind := by
  induction lead with
  | nil =>
    cases trail with
    | nil => exact ⟨[], [], fun part => (List.append_nil part).symm⟩
    | cons next more => exact ⟨[], separator :: join separator (next :: more), fun part => rfl⟩
  | cons first rest ih =>
    obtain ⟨before, behind, hrest⟩ := ih
    refine ⟨first ++ separator :: before, behind, fun part => ?_⟩
    rw [List.cons_append, join, hrest]
    · simp only [List.append_assoc, List.cons_append]
    · simp

/-- Cutting joined parts gives the parts back, if none of them holds the separator. -/
theorem split_join {separator : Char} {parts : List (List Char)} (hne : parts ≠ [])
    (h : ∀ part ∈ parts, separator ∉ part) : split separator (join separator parts) = parts := by
  rw [split_eq_splitOn, join_eq_intercalate, List.splitOn_intercalate separator h hne]

/-- No part holds the separator. -/
theorem notMem_of_mem_split {separator : Char} {part cs : List Char}
    (h : part ∈ split separator cs) : separator ∉ part := by
  induction cs generalizing part with
  | nil =>
    rw [split, List.mem_singleton] at h
    simp [h]
  | cons c rest ih =>
    obtain ⟨first, parts, hrest⟩ := exists_split_eq_cons separator rest
    rw [hrest] at ih
    by_cases hc : c = separator
    · rw [split, if_pos hc, hrest, List.mem_cons] at h
      obtain rfl | h := h
      · exact List.not_mem_nil
      · exact ih h
    · rw [split_cons_of_ne hc hrest, List.mem_cons] at h
      obtain rfl | h := h
      · rw [List.mem_cons, not_or]
        exact ⟨Ne.symm hc, ih List.mem_cons_self⟩
      · exact ih (List.mem_cons_of_mem _ h)

/-- A text begins with the separator if its first part is empty and not the only one. -/
theorem head?_eq_iff_of_split {separator : Char} {cs first : List Char} {later : List (List Char)}
    (h : split separator cs = first :: later) :
    cs.head? = some separator ↔ first = [] ∧ later ≠ [] := by
  cases cs with
  | nil =>
    cases h
    simp
  | cons c rest =>
    by_cases hc : c = separator
    · rw [split, if_pos hc] at h
      cases h
      simp [hc, split_ne_nil]
    · obtain ⟨part, parts, hrest⟩ := exists_split_eq_cons separator rest
      rw [split_cons_of_ne hc hrest] at h
      cases h
      simp [hc]

/-- A character other than the separator stands in a text if it stands in one of its parts. -/
theorem exists_mem_split_iff {separator c : Char} (hc : c ≠ separator) {cs : List Char} :
    (∃ part ∈ split separator cs, c ∈ part) ↔ c ∈ cs := by
  induction cs with
  | nil => simp [split]
  | cons d rest ih =>
    obtain ⟨first, later, hrest⟩ := exists_split_eq_cons separator rest
    rw [hrest] at ih
    simp only [List.mem_cons, exists_eq_or_imp] at ih
    rw [List.mem_cons, ← ih]
    by_cases hd : d = separator
    · rw [split, if_pos hd, hrest]
      simp [hd, hc]
    · rw [split_cons_of_ne hd hrest]
      simp only [List.mem_cons, exists_eq_or_imp, or_assoc]

end Text

end HostBoundary
