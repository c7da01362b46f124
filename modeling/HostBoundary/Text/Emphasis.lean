-- SUMMARY: Emphasis on a terminal, and taking it away again.

/-!
# Emphasis

Emphasised text stands between the sequence that starts a style and the one that ends all styles. If
the text itself holds the latter, the style is started again behind it. Nothing is lost: taking the
emphasis away gives the text back, whatever sequences it holds. Starting the style again completes no
sequence, so behind every one that ends all styles there is a new start to be left out.
-/

namespace HostBoundary

/-- A style of emphasis, given by the codes that start it. -/
structure Style where
  codes : List Char

namespace Style

/-- Bold yellow. -/
def warning : Style := ⟨['1', ';', '3', '3']⟩

/-- Bold blue. -/
def debug : Style := ⟨['1', ';', '3', '4']⟩

/-- The sequence that starts a style. -/
def start (style : Style) : List Char := '\x1b' :: '[' :: (style.codes ++ ['m'])

/-- The sequence that ends all styles. -/
def reset : List Char := ['\x1b', '[', '0', 'm']

/-- Starts the style again behind every sequence that ends it. -/
def restart (style : Style) : List Char → List Char
  | '\x1b' :: '[' :: '0' :: 'm' :: rest =>
    '\x1b' :: '[' :: '0' :: 'm' :: (style.start ++ restart style rest)
  | c :: rest => c :: restart style rest
  | [] => []

/-- The text in the style, if there is colour at all. -/
def emphasize (style : Style) (colour : Bool) (text : List Char) : List Char :=
  if colour then style.start ++ style.restart text ++ reset else text

/-- The pieces in which a text in the style is written. -/
def pieces (style : Style) (colour : Bool) (text : List Char) : List (List Char) :=
  if colour then [style.start, style.restart text, reset] else [text]

/-- Leaves out the start of the style behind every sequence that ends all styles. -/
def unrestart (style : Style) (text : List Char) : List Char :=
  match text with
  | '\x1b' :: '[' :: '0' :: 'm' :: rest =>
    '\x1b' :: '[' :: '0' :: 'm' ::
      unrestart style
        (if style.start.isPrefixOf rest then rest.drop style.start.length else rest)
  | c :: rest => c :: unrestart style rest
  | [] => []
termination_by text.length
decreasing_by
  · split <;> simp only [List.length_drop, List.length_cons] <;> omega
  · simp only [List.length_cons]; omega

theorem flatten_pieces (style : Style) (colour : Bool) (text : List Char) :
    (style.pieces colour text).flatten = style.emphasize colour text := by
  cases colour with
  | false => simp [pieces, emphasize]
  | true => simp [pieces, emphasize]

/-- What is started again begins as the text does, as long as that is no sequence. -/
theorem restart_eq_cons {style : Style} {text rest : List Char} {c : Char} (hc : c ≠ '\x1b')
    (h : style.restart text = c :: rest) : ∃ tail, text = c :: tail ∧ style.restart tail = rest := by
  fun_cases restart style text with
  | case1 tail =>
    rw [restart] at h
    exact absurd (List.cons.inj h).1.symm hc
  | case2 d tail hd =>
    rw [restart] at h
    · obtain ⟨rfl, rfl⟩ := List.cons.inj h
      exact ⟨tail, rfl, rfl⟩
    · exact hd
  | case3 => cases h

/-- Starting the style again completes no sequence that ends all styles. -/
theorem exists_of_restart_eq {style : Style} {text behind : List Char}
    (h : style.restart text = '[' :: '0' :: 'm' :: behind) : ∃ tail, text = '[' :: '0' :: 'm' :: tail := by
  obtain ⟨second, htext, h⟩ := restart_eq_cons (by decide) h
  obtain ⟨third, hsecond, h⟩ := restart_eq_cons (by decide) h
  obtain ⟨fourth, hthird, _⟩ := restart_eq_cons (by decide) h
  exact ⟨fourth, by rw [htext, hsecond, hthird]⟩

theorem unrestart_restart (style : Style) (text : List Char) :
    style.unrestart (style.restart text) = text := by
  fun_induction restart style text with
  | case1 rest ih => rw [unrestart, if_pos (by simp), List.drop_left, ih]
  | case2 c rest hc ih =>
    rw [unrestart, ih]
    intro behind hesc h
    obtain ⟨tail, hrest⟩ := exists_of_restart_eq h
    exact hc tail hesc hrest
  | case3 => rw [unrestart]

/-- Emphasised text without its emphasis: its start, its end and every new start are left out. -/
def plain (style : Style) (text : List Char) : List Char :=
  let inner := text.drop style.start.length
  style.unrestart (inner.take (inner.length - reset.length))

theorem plain_emphasize (style : Style) (text : List Char) :
    style.plain (style.emphasize true text) = text := by
  simp only [plain, emphasize, if_true, List.append_assoc, List.drop_left, List.length_append,
    Nat.add_sub_cancel, List.take_left, unrestart_restart]

/-- Different texts stay different in any style. -/
theorem emphasize_inj {style : Style} {colour : Bool} {a b : List Char}
    (h : style.emphasize colour a = style.emphasize colour b) : a = b := by
  cases colour with
  | false => exact h
  | true => rw [← plain_emphasize style a, h, plain_emphasize]

/-! ## Sequences in emphasised text -/

/-- Behind every sequence that ends all styles, the style is started. -/
def Restarted (style : Style) (text : List Char) : Prop :=
  ∀ behind, reset ++ behind <:+ text → style.start <+: behind

variable {style : Style} {text : List Char}

theorem restarted_cons {c : Char} (hfirst : ∀ behind, reset ++ behind = c :: text → style.start <+: behind)
    (htext : style.Restarted text) : style.Restarted (c :: text) := by
  intro behind h
  rcases List.suffix_cons_iff.mp h with heq | hsuffix
  · exact hfirst behind heq
  · exact htext behind hsuffix

/-- Characters that start no sequence may stand in front. -/
theorem restarted_append (front : List Char) (hfront : '\x1b' ∉ front) (htext : style.Restarted text) :
    style.Restarted (front ++ text) := by
  induction front with
  | nil => exact htext
  | cons c rest ih =>
    obtain ⟨hc, hrest⟩ := not_or.mp (mt List.mem_cons.mpr hfront)
    refine restarted_cons ?_ (ih hrest)
    intro behind heq
    exact absurd (List.cons.inj heq).1 hc

/-- A style may be started in front, unless its start can be mistaken for the end of all styles. -/
theorem restarted_start_append (hesc : '\x1b' ∉ style.codes) (hzero : style.codes.head? ≠ some '0')
    (htext : style.Restarted text) : style.Restarted (style.start ++ text) := by
  have hstart : style.start ++ text = '\x1b' :: (('[' :: (style.codes ++ ['m'])) ++ text) := rfl
  rw [hstart]
  refine restarted_cons ?_ (restarted_append _ ?_ htext)
  · intro behind heq
    cases hcodes : style.codes with
    | nil => simp [reset, hcodes] at heq
    | cons code codes =>
      simp only [reset, hcodes, List.cons_append, List.nil_append, List.cons.injEq, true_and] at heq
      exact absurd (by rw [hcodes, List.head?_cons, heq.1]) hzero
  · simp [hesc]

/-- Behind every sequence that ends all styles, the style is started again. -/
theorem restarted_restart (style : Style) (hesc : '\x1b' ∉ style.codes)
    (hzero : style.codes.head? ≠ some '0') (text : List Char) : style.Restarted (style.restart text) := by
  fun_induction restart style text with
  | case1 rest ih =>
    have hstart := restarted_start_append hesc hzero ih
    refine restarted_cons ?_ (restarted_append ['[', '0', 'm'] (by decide) hstart)
    intro behind heq
    simp only [reset, List.cons_append, List.nil_append, List.cons.injEq, true_and] at heq
    exact heq ▸ List.prefix_append _ _
  | case2 c rest hc ih =>
    refine restarted_cons ?_ ih
    intro behind heq
    obtain ⟨hfirst, hbehind⟩ := List.cons.inj heq
    obtain ⟨tail, hrest⟩ := exists_of_restart_eq hbehind.symm
    exact absurd hrest (hc tail hfirst.symm)
  | case3 =>
    intro behind h
    cases List.suffix_nil.mp h

end Style

end HostBoundary
