-- SUMMARY: A text with a margin, told line by line; two margins one after the other; and that a margin hides no difference.
import HostBoundary.Text.Indent
import HostBoundary.Text.Split

/-!
# Texts with a margin

The margin is put in character by character, with a look at the next one. The result is that of cutting the
text into lines, putting the margin before the first line and before every later line that is not empty, and
joining the lines again. So a margin that has no line break of its own makes no new lines, and a second
margin comes before the first one. Different texts stay different under any margin, even under one with line
breaks.
-/

namespace HostBoundary

namespace Indent

open Text

variable {margin outer : List Char}

/-! ## Line by line -/

/-- A line that is not the first one: an empty line stays empty. -/
def laterLine (margin line : List Char) : List Char := if line = [] then [] else margin ++ line

/-- Lines with the margin before the first one and before every later one that is not empty. -/
def withMargin (margin : List Char) : List (List Char) → List (List Char)
  | [] => []
  | first :: later => (margin ++ first) :: later.map (laterLine margin)

/-- Whether a text begins with a line that is not empty. -/
def beginsLine (text : List Char) : Bool := text.head?.any (· ≠ '\n')

theorem laterLines_cons (margin : List Char) (c : Char) (rest : List Char) :
    laterLines margin (c :: rest) =
      c :: if c = '\n' ∧ beginsLine rest then margin ++ laterLines margin rest
        else laterLines margin rest := by
  rw [laterLines, beginsLine]
  split
  · rfl
  · rfl

theorem beginsLine_laterLines (margin text : List Char) :
    beginsLine (laterLines margin text) = beginsLine text := by
  cases text with
  | nil => rfl
  | cons c rest =>
    rw [laterLines_cons]
    rfl

theorem beginsLine_iff {text first : List Char} {later : List (List Char)}
    (h : split '\n' text = first :: later) : beginsLine text ↔ first ≠ [] := by
  cases text with
  | nil =>
    cases h
    simp [beginsLine]
  | cons c rest =>
    by_cases hc : c = '\n'
    · rw [split, if_pos hc] at h
      cases h
      simp [beginsLine, hc]
    · obtain ⟨part, parts, hrest⟩ := exists_split_eq_cons '\n' rest
      rw [split_cons_of_ne hc hrest] at h
      cases h
      simp [beginsLine, hc]

/-- Behind the first line, each line that is not empty has the margin before it. -/
theorem laterLines_eq_join {text first : List Char} {later : List (List Char)}
    (h : split '\n' text = first :: later) :
    laterLines margin text = join '\n' (first :: later.map (laterLine margin)) := by
  induction text generalizing first later with
  | nil =>
    cases h
    rfl
  | cons c rest ih =>
    obtain ⟨next, more, hrest⟩ := exists_split_eq_cons '\n' rest
    have ih := ih hrest
    rw [laterLines_cons]
    by_cases hc : c = '\n'
    · -- The line that ends here is empty, so the look at the next character is one at the line `next`.
      rw [split, if_pos hc, hrest] at h
      cases h
      have hjoin : join '\n' ([] :: (next :: more).map (laterLine margin)) =
          '\n' :: join '\n' (laterLine margin next :: more.map (laterLine margin)) := rfl
      rw [hjoin, hc]
      by_cases hnext : next = []
      · rw [if_neg (by simp [beginsLine_iff hrest, hnext]), ih, laterLine, if_pos hnext, hnext]
      · rw [if_pos ⟨rfl, (beginsLine_iff hrest).mpr hnext⟩, ih, laterLine, if_neg hnext, join_append]
    · rw [split_cons_of_ne hc hrest] at h
      cases h
      rw [if_neg (by simp [hc]), ih, join_cons]

theorem lines_eq_join (margin text : List Char) :
    lines margin text = join '\n' (withMargin margin (split '\n' text)) := by
  obtain ⟨first, later, h⟩ := exists_split_eq_cons '\n' text
  rw [lines, laterLines_eq_join h, h, withMargin, join_append]

/-! ## Two margins -/

theorem notMem_of_mem_withMargin {parts : List (List Char)} (hmargin : '\n' ∉ margin)
    (hparts : ∀ part ∈ parts, '\n' ∉ part) : ∀ line ∈ withMargin margin parts, '\n' ∉ line := by
  cases parts with
  | nil => simp [withMargin]
  | cons first later =>
    intro line hline
    obtain rfl | hline := List.mem_cons.mp hline
    · simp [hmargin, hparts first List.mem_cons_self]
    · obtain ⟨part, hpart, rfl⟩ := List.mem_map.mp hline
      have hnone := hparts part (List.mem_cons_of_mem _ hpart)
      unfold laterLine
      split
      · simp
      · simp [hmargin, hnone]

/-- A margin without line breaks leaves the lines what they are: it makes none and joins none. -/
theorem split_lines (h : '\n' ∉ margin) (text : List Char) :
    split '\n' (lines margin text) = withMargin margin (split '\n' text) := by
  rw [lines_eq_join]
  apply split_join
  · obtain ⟨first, later, hsplit⟩ := exists_split_eq_cons '\n' text
    simp [hsplit, withMargin]
  · exact notMem_of_mem_withMargin h fun part hpart => notMem_of_mem_split hpart

theorem laterLine_laterLine (line : List Char) :
    laterLine outer (laterLine margin line) = laterLine (outer ++ margin) line := by
  by_cases h : line = []
  · simp [laterLine, h]
  · simp [laterLine, h]

theorem withMargin_withMargin (parts : List (List Char)) :
    withMargin outer (withMargin margin parts) = withMargin (outer ++ margin) parts := by
  cases parts with
  | nil => rfl
  | cons first later =>
    simp only [withMargin, List.append_assoc, List.map_map, Function.comp_def, laterLine_laterLine]

theorem lines_lines (h : '\n' ∉ margin) (text : List Char) :
    lines outer (lines margin text) = lines (outer ++ margin) text := by
  rw [lines_eq_join, split_lines h, withMargin_withMargin, ← lines_eq_join]

/-! ## A margin with line breaks -/

theorem length_le_length_laterLines (margin text : List Char) :
    text.length ≤ (laterLines margin text).length := by
  induction text with
  | nil => exact Nat.le_refl 0
  | cons c rest ih =>
    rw [laterLines_cons]
    split
    · simp only [List.length_cons, List.length_append]
      omega
    · exact Nat.succ_le_succ ih

theorem break_mem_of_not_beginsLine {text : List Char} {last : Char} (hlast : last ≠ '\n')
    (h : ¬ beginsLine (text ++ [last])) : '\n' ∈ text := by
  cases text with
  | nil => simp [beginsLine, hlast] at h
  | cons c rest =>
    obtain rfl : c = '\n' := by simpa [beginsLine] using h
    exact List.mem_cons_self

/-- The last line of such a text is a later one and not empty, so the margin is put in there at least. -/
theorem length_lt_length_laterLines {text : List Char} {last : Char} (hmargin : 0 < margin.length)
    (hlast : last ≠ '\n') (h : '\n' ∈ text) :
    (text ++ [last]).length < (laterLines margin (text ++ [last])).length := by
  induction text with
  | nil => cases h
  | cons c rest ih =>
    rw [List.cons_append, laterLines_cons]
    by_cases hbegins : c = '\n' ∧ beginsLine (rest ++ [last])
    · have hle := length_le_length_laterLines margin (rest ++ [last])
      rw [if_pos hbegins]
      simp only [List.length_cons, List.length_append] at hle ⊢
      omega
    · have hrest : '\n' ∈ rest := by
        obtain rfl | hrest := List.mem_cons.mp h
        · exact break_mem_of_not_beginsLine hlast fun hbegin => hbegins ⟨rfl, hbegin⟩
        · exact hrest
      rw [if_neg hbegins]
      exact Nat.succ_lt_succ (ih hrest)

/-- Where the inner margin has a line break, the outer one is put in behind it. -/
theorem notMem_of_lines_lines {last : Char} (houter : 0 < outer.length) (hlast : last ≠ '\n')
    (h : lines outer (lines margin [last]) = lines (outer ++ margin) [last]) : '\n' ∉ margin := by
  intro hbreak
  have hsingle : ∀ m, laterLines m [last] = [last] := fun m => by simp [laterLines]
  rw [lines, lines, lines, hsingle, hsingle, List.append_assoc] at h
  have hlt := length_lt_length_laterLines houter hlast hbreak
  rw [List.append_cancel_left h] at hlt
  exact Nat.lt_irrefl _ hlt

/-! ## Different texts -/

/-- How many line breaks a text begins with. -/
def leadingBreaks (text : List Char) : Nat := (text.takeWhile (· = '\n')).length

theorem leadingBreaks_break (text : List Char) :
    leadingBreaks ('\n' :: text) = leadingBreaks text + 1 := by
  simp [leadingBreaks]

theorem leadingBreaks_append {rest : List Char} (h : beginsLine rest) (text : List Char) :
    leadingBreaks (text ++ rest) = leadingBreaks text := by
  induction text with
  | nil =>
    cases rest with
    | nil => cases h
    | cons c rest =>
      have hc : c ≠ '\n' := by simpa [beginsLine] using h
      simp [leadingBreaks, hc]
  | cons c text ih =>
    by_cases hc : c = '\n'
    · rw [hc, List.cons_append, leadingBreaks_break, leadingBreaks_break, ih]
    · simp [leadingBreaks, hc]

/-- A text that begins with no line is nothing but line breaks, or they run on into the margin of its first
line. -/
theorem lt_leadingBreaks_of_not_beginsLine (margin : List Char) {text : List Char}
    (h : ¬ beginsLine text) :
    (∀ c ∈ laterLines margin text, c = '\n') ∨
      leadingBreaks margin < leadingBreaks (laterLines margin text) := by
  induction text with
  | nil =>
    refine .inl ?_
    simp [laterLines]
  | cons c rest ih =>
    obtain rfl : c = '\n' := by simpa [beginsLine] using h
    rw [laterLines_cons]
    by_cases hrest : beginsLine rest
    · rw [if_pos ⟨rfl, hrest⟩, leadingBreaks_break,
        leadingBreaks_append (by rwa [beginsLine_laterLines])]
      exact .inr (Nat.lt_succ_self _)
    · rw [if_neg (by simp [hrest]), leadingBreaks_break]
      obtain hbreaks | hlt := ih hrest
      · exact .inl (by simpa using hbreaks)
      · exact .inr (Nat.lt_succ_of_lt hlt)

/-- What stands behind a line break tells whether the margin was put in there. -/
theorem append_laterLines_ne {a b : List Char} (ha : beginsLine a) (hb : ¬ beginsLine b) :
    margin ++ laterLines margin a ≠ laterLines margin b := by
  intro heq
  have hbegins : beginsLine (laterLines margin a) := by rwa [beginsLine_laterLines]
  obtain hbreaks | hlt := lt_leadingBreaks_of_not_beginsLine margin hb
  · cases hlines : laterLines margin a with
    | nil => simp [hlines, beginsLine] at hbegins
    | cons c rest =>
      have hc : c = '\n' := hbreaks c (by simp [← heq, hlines])
      simp [hlines, beginsLine, hc] at hbegins
  · rw [← heq, leadingBreaks_append hbegins] at hlt
    exact Nat.lt_irrefl _ hlt

theorem laterLines_inj {a b : List Char} (h : laterLines margin a = laterLines margin b) :
    a = b := by
  induction a generalizing b with
  | nil =>
    cases b with
    | nil => rfl
    | cons d b =>
      rw [laterLines_cons] at h
      cases h
  | cons c a ih =>
    cases b with
    | nil =>
      rw [laterLines_cons] at h
      cases h
    | cons d b =>
      rw [laterLines_cons, laterLines_cons, List.cons.injEq] at h
      obtain ⟨rfl, h⟩ := h
      refine congrArg (c :: ·) (ih ?_)
      -- The margin is put in on both sides or on neither: on one side only, the sides would differ.
      by_cases ha : c = '\n' ∧ beginsLine a
      · by_cases hb : c = '\n' ∧ beginsLine b
        · rw [if_pos ha, if_pos hb] at h
          exact List.append_cancel_left h
        · rw [if_pos ha, if_neg hb] at h
          exact absurd h (append_laterLines_ne ha.2 fun hbegins => hb ⟨ha.1, hbegins⟩)
      · by_cases hb : c = '\n' ∧ beginsLine b
        · rw [if_neg ha, if_pos hb] at h
          exact absurd h.symm (append_laterLines_ne hb.2 fun hbegins => ha ⟨hb.1, hbegins⟩)
        · rwa [if_neg ha, if_neg hb] at h

theorem lines_inj {a b : List Char} (h : lines margin a = lines margin b) : a = b :=
  laterLines_inj (List.append_cancel_left h)

end Indent

/-! ## Texts -/

theorem toList_indent (text margin : String) :
    (indent text margin).toList = Indent.lines margin.toList text.toList := String.toList_ofList

/-- A text with a margin is the text cut at its line breaks, with the margin before the first line and before
every later line that is not empty, and joined again. -/
theorem indent_eq_join_withMargin (text margin : String) :
    indent text margin =
      String.ofList (Text.join '\n' (Indent.withMargin margin.toList (Text.split '\n' text.toList))) := by
  rw [indent, Indent.lines_eq_join]

/-- Empty lines at the front, in the middle and at the end, under a margin with a line break. -/
example : indent "\n\nab\n\nc\n" ">\n" = ">\n\n\n>\nab\n\n>\nc\n" := by decide

/-- One margin put before another is one margin, on all texts and for all outer margins, exactly if the inner
one has no line break. Whatever the margin is, it hides no difference between texts. -/
theorem indent_indent_iff_and_inj (margin : String) :
    ((∀ text outer, indent (indent text margin) outer = indent text (outer ++ margin)) ↔
        '\n' ∉ margin.toList) ∧
      ∀ a b, indent a margin = indent b margin → a = b := by
  refine ⟨⟨?_, ?_⟩, ?_⟩
  · intro h
    have htwice := congrArg String.toList (h "a" ">")
    rw [toList_indent, toList_indent, toList_indent, String.toList_append] at htwice
    exact Indent.notMem_of_lines_lines (by decide) (by decide) htwice
  · intro h text outer
    rw [indent, toList_indent, Indent.lines_lines h, ← String.toList_append]
    rfl
  · intro a b h
    have hlines := congrArg String.toList h
    rw [toList_indent, toList_indent] at hlines
    exact String.toList_inj.mp (Indent.lines_inj hlines)

end HostBoundary
