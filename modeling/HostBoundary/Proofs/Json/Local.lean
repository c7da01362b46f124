-- SUMMARY: What is read at the beginning of a text is read there, too, if the text is longer, unless what comes behind goes on with a number.
import HostBoundary.Proofs.Json.RoundTrip

/-!
# Longer texts

The reader of a document never looks behind what it reads, but for one character: it has to see that a number
does not go on. So a text that was read by itself is read the same inside a longer text, wherever a bracket, a
comma or a blank comes next. This is shown of each scanner in turn, and of a bracketed sequence if it holds of
each element.
-/

namespace HostBoundary

namespace Json

/-- What a scanner finds at the beginning of a text it finds, too, if the text goes on, and it leaves more by
as much. -/
def IsLocal {α : Type} (scan : Scan α) : Prop := ∀ ⦃cs found rest more⦄,
  scan cs = .ok (found, rest) → EndsNumber more → scan (cs ++ more) = .ok (found, rest ++ more)

namespace IsLocal

variable {α β : Type} {scan : Scan α}

theorem bind (h : IsLocal scan) (next : α → Scan β) (hnext : ∀ a, IsLocal (next a)) :
    IsLocal fun cs => scan cs >>= fun read => next read.1 read.2 := by
  intro cs found rest more hread hmore
  obtain ⟨⟨a, left⟩, hscan, hleft⟩ := exists_of_bind_eq_ok hread
  change scan (cs ++ more) >>= _ = _
  rw [h hscan hmore]
  exact hnext a hleft hmore

theorem pure (a : α) : IsLocal fun cs => .ok (a, cs) := by
  intro cs found rest more h _
  cases h
  rfl

theorem map (h : IsLocal scan) (f : α → β) :
    IsLocal fun cs => scan cs >>= fun read => .ok (f read.1, read.2) :=
  h.bind (fun a left => .ok (f a, left)) fun a => pure (f a)

theorem error (stop : List Char → Stop) : IsLocal (fun cs => .error (stop cs) : Scan α) := by
  intro cs found rest more h _
  cases h

theorem ite {p : Prop} [Decidable p] {other : Scan α} (h : IsLocal scan) (hother : IsLocal other) :
    IsLocal fun cs => if p then scan cs else other cs := by
  split
  · exact h
  · exact hother

theorem behind (h : IsLocal scan) (c : Char) : IsLocal fun cs => scan (c :: cs) := by
  intro cs found rest more hread hmore
  exact h hread hmore

end IsLocal

variable {cs rest more : List Char}

/-! ## Fixed words and blanks -/

theorem word_append {es : List Char} (h : word es cs = .ok rest) :
    word es (cs ++ more) = .ok (rest ++ more) := by
  induction es generalizing cs with
  | nil =>
    cases h
    rfl
  | cons e es ih =>
    cases cs with
    | nil => cases h
    | cons c cs =>
      rw [word] at h
      split at h
      · next hc =>
        rw [List.cons_append, word, if_pos hc]
        exact ih h
      · cases h

theorem IsLocal.afterBlank {α : Type} {next : Char → Scan α} {stop : Stop} (h : ∀ c, IsLocal (next c)) :
    IsLocal fun cs => match skipBlank cs with
      | [] => .error stop
      | c :: rest => next c rest := by
  intro cs found rest more hread hmore
  dsimp only at hread ⊢
  split at hread
  · cases hread
  · next c left hskip =>
    rw [skipBlank_append_of_cons hskip]
    exact h c hread hmore

/-! ## String literals -/

namespace StringLiteral

theorem hexUnit_append {n : Nat} (more : List Char) (h : hexUnit cs = .ok n) :
    hexUnit (cs ++ more) = .ok n ∧ 4 ≤ cs.length := by
  unfold hexUnit at h
  split at h
  · cases h
  · next hlong =>
    split at h
    · next a b c d left =>
      have hmore : ¬ Utf8.length (a :: b :: c :: d :: left ++ more) < 4 := by
        rw [Utf8.length_append]
        omega
      split at h
      · next hnumber =>
        refine ⟨?_, by simp⟩
        unfold hexUnit
        rw [if_neg hmore]
        simp only [List.cons_append, hnumber]
        exact h
      · cases h
    · cases h

theorem trailingUnit_append {n : Nat} (more : List Char) (h : trailingUnit cs = .ok n) :
    trailingUnit (cs ++ more) = .ok n ∧ 6 ≤ cs.length := by
  unfold trailingUnit at h
  split at h
  · next left =>
    obtain ⟨m, hunit, h⟩ := exists_of_bind_eq_ok h
    obtain ⟨hmore, hlength⟩ := hexUnit_append more hunit
    split at h
    · next htrailing =>
      cases h
      refine ⟨?_, by simp; omega⟩
      simp only [List.cons_append, trailingUnit, hmore, bind, Except.bind, if_pos htrailing]
    · cases h
  · cases h
  · cases h
  · cases h
  · cases h

theorem hexEscape_append {read : Char × Nat} (more : List Char) (h : hexEscape cs = .ok read) :
    hexEscape (cs ++ more) = .ok read ∧ read.2 ≤ cs.length := by
  unfold hexEscape at h ⊢
  obtain ⟨n, hunit, h⟩ := exists_of_bind_eq_ok h
  obtain ⟨hmore, hlength⟩ := hexUnit_append more hunit
  rw [hmore]
  simp only [bind, Except.bind] at h ⊢
  split at h
  · cases h
  · next htrailing =>
    rw [if_neg htrailing]
    split at h
    · next hleading =>
      rw [if_pos hleading, List.drop_append_of_le_length hlength]
      obtain ⟨m, htrail, h⟩ := exists_of_bind_eq_ok h
      obtain ⟨hlonger, hleft⟩ := trailingUnit_append more htrail
      obtain rfl : (joined n m, 10) = read := Except.ok.inj h
      rw [List.length_drop] at hleft
      refine ⟨?_, by simp only; omega⟩
      simp only [hlonger]
    · next hleading =>
      rw [if_neg hleading]
      cases h
      exact ⟨rfl, hlength⟩

/-- An escape is read from the characters that it takes. -/
theorem escape_append {read : Char × Nat} (more : List Char) (h : escape cs = .ok read) :
    escape (cs ++ more) = .ok read ∧ read.2 ≤ cs.length := by
  unfold escape at h
  split at h
  · cases h
  · next left =>
    obtain ⟨⟨c, taken⟩, hescape, h⟩ := exists_of_bind_eq_ok h
    obtain ⟨hmore, hlength⟩ := hexEscape_append more hescape
    cases h
    refine ⟨?_, Nat.succ_le_succ hlength⟩
    simp only [List.cons_append, escape, hmore, bind, Except.bind]
  · next c left hc =>
    split at h
    · next d hletter =>
      cases h
      refine ⟨?_, Nat.succ_le_succ (Nat.zero_le _)⟩
      rw [List.cons_append, escape]
      · rw [hletter]
      · exact fun heq => hc heq
    · cases h

theorem scanChars_append {found : List Char} (h : scanChars cs = .ok (found, rest)) :
    scanChars (cs ++ more) = .ok (found, rest ++ more) := by
  induction cs using scanChars.induct generalizing found with
  | case1 =>
    rw [scanChars] at h
    cases h
  | case2 left =>
    rw [scanChars, if_pos rfl] at h
    cases h
    rw [List.cons_append, scanChars, if_pos rfl]
  | case3 left hquote ih =>
    rw [scanChars, if_neg hquote, if_pos rfl] at h
    obtain ⟨⟨d, taken⟩, hescape, h⟩ := exists_of_bind_eq_ok h
    obtain ⟨⟨ds, after⟩, hchars, h⟩ := exists_of_bind_eq_ok h
    cases h
    obtain ⟨hmore, hlength⟩ := escape_append more hescape
    rw [List.cons_append, scanChars_escape hmore, List.drop_append_of_le_length hlength, ih taken hchars]
    rfl
  | case4 c left hquote hslash hcontrol =>
    rw [scanChars, if_neg hquote, if_neg hslash, if_pos hcontrol] at h
    cases h
  | case5 c left hquote hslash hcontrol ih =>
    rw [scanChars, if_neg hquote, if_neg hslash, if_neg hcontrol] at h
    obtain ⟨⟨ds, after⟩, hchars, h⟩ := exists_of_bind_eq_ok h
    cases h
    rw [List.cons_append, scanChars_cons hquote hslash (Bool.eq_false_iff.mpr hcontrol), ih hchars]
    rfl

/-- A literal ends at its closing quote, so anything may come behind it. -/
theorem scan_append {found : String} (h : scan cs = .ok (found, rest)) :
    scan (cs ++ more) = .ok (found, rest ++ more) := by
  obtain ⟨⟨ds, left⟩, hchars, h⟩ := exists_of_bind_eq_ok h
  cases h
  rw [scan, scanChars_append hchars]
  rfl

end StringLiteral

/-! ## Number literals -/

namespace Literal

variable {atEnd : Cause}

/-- Digits end where they ended, since no digit comes behind them. -/
theorem spanDigits_append_of_endsNumber (hmore : EndsNumber more) :
    spanDigits (cs ++ more) = ((spanDigits cs).1, (spanDigits cs).2 ++ more) := by
  induction cs with
  | nil => exact spanDigits_append (List.forall_mem_nil _) hmore
  | cons c cs ih =>
    simp only [spanDigits, List.span_eq_takeWhile_dropWhile, Prod.mk.injEq] at ih ⊢
    by_cases hc : c.isDigit
    · rw [List.cons_append, List.takeWhile_cons_of_pos hc, List.takeWhile_cons_of_pos hc,
        List.dropWhile_cons_of_pos hc, List.dropWhile_cons_of_pos hc, ih.1, ih.2]
      exact ⟨rfl, rfl⟩
    · rw [List.cons_append, List.takeWhile_cons_of_neg hc, List.takeWhile_cons_of_neg hc,
        List.dropWhile_cons_of_neg hc, List.dropWhile_cons_of_neg hc]
      exact ⟨rfl, rfl⟩

theorem isLocal_someDigits : IsLocal (someDigits atEnd) := by
  intro cs found rest more h hmore
  unfold someDigits at h
  split at h
  · cases h
  · next c left =>
    split at h
    · next hc =>
      rw [List.cons_append, someDigits, if_pos hc, ← List.cons_append,
        spanDigits_append_of_endsNumber hmore, Except.ok.inj h]
    · cases h

theorem isLocal_scanWhole : IsLocal (scanWhole atEnd) := by
  intro cs found rest more h hmore
  unfold scanWhole at h
  split at h
  · next left =>
    split at h
    · next c after =>
      split at h
      · cases h
      · next hc =>
        cases h
        rw [List.cons_append, List.cons_append, scanWhole]
        exact if_neg hc
    · cases h
      exact scanWhole_digits 0 hmore
  · next hzero =>
    cases cs with
    | nil => cases h
    | cons c left =>
      rw [List.cons_append, scanWhole, ← List.cons_append]
      · exact isLocal_someDigits h hmore
      · exact fun rest heq => hzero left (by rw [(List.cons.inj heq).1])

theorem isLocal_scanFraction : IsLocal (scanFraction atEnd) := by
  intro cs found rest more h hmore
  unfold scanFraction at h
  split at h
  · exact isLocal_someDigits h hmore
  · next hpoint =>
    cases h
    cases cs with
    | nil => exact scanFraction_none hmore
    | cons c left =>
      rw [List.cons_append, scanFraction]
      exact fun rest heq => hpoint left (by rw [(List.cons.inj heq).1])

theorem scanSign_cons_append (c : Char) :
    scanSign (c :: cs ++ more) = ((scanSign (c :: cs)).1, (scanSign (c :: cs)).2 ++ more) := by
  rw [List.cons_append]
  unfold scanSign
  split
  · next heq =>
    cases heq
    rfl
  · next heq =>
    cases heq
    rfl
  · next hplus hminus =>
    split
    · next rest heq => exact absurd (congrArg (· ++ more) heq) (hplus _)
    · next rest heq => exact absurd (congrArg (· ++ more) heq) (hminus _)
    · rfl

theorem isLocal_scanExponent (literal : Literal) : IsLocal (scanExponent atEnd literal) := by
  intro cs found rest more h hmore
  cases cs with
  | nil =>
    cases h
    exact scanExponent_none literal hmore
  | cons c left =>
    rw [scanExponent] at h
    rw [List.cons_append, scanExponent]
    split at h
    · next hc =>
      rw [if_pos hc]
      cases left with
      | nil => cases h
      | cons d after =>
        rw [scanSign_cons_append]
        cases hsign : scanSign (d :: after) with
        | mk negative signless =>
          rw [hsign] at h
          obtain ⟨⟨ds, last⟩, hdigits, h⟩ := exists_of_bind_eq_ok h
          cases h
          simp only [isLocal_someDigits hdigits hmore, bind, Except.bind]
    · next hc =>
      rw [if_neg hc]
      cases h
      rfl

theorem isLocal_scanUnsigned (negative : Bool) : IsLocal (scanUnsigned atEnd negative) :=
  isLocal_scanWhole.bind (fun whole cs => scanFraction atEnd cs >>= fun fraction =>
      scanExponent atEnd { negative, whole, fraction := fraction.1 } fraction.2) fun whole =>
    isLocal_scanFraction.bind (fun fraction => scanExponent atEnd { negative, whole, fraction })
      fun _ => isLocal_scanExponent _

theorem isLocal_scan : IsLocal (scan atEnd) := by
  intro cs found rest more h hmore
  cases cs with
  | nil => cases h
  | cons c left =>
    by_cases hc : c = '-'
    · subst hc
      rw [List.cons_append, scan_minus]
      exact isLocal_scanUnsigned true h hmore
    · rw [scan_cons_of_ne hc] at h
      rw [List.cons_append, scan_cons_of_ne hc, ← List.cons_append]
      exact isLocal_scanUnsigned false h hmore

end Literal

/-- Which number it is depends on the parts of the literal only. -/
theorem isLocal_scanNumber : IsLocal scanNumber := by
  intro cs found rest more h hmore
  obtain ⟨⟨literal, left⟩, hscan, h⟩ := exists_of_bind_eq_ok h
  simp only [scanNumber, Literal.isLocal_scan hscan hmore, bind, Except.bind] at h ⊢
  cases hexcess : literal.excess? with
  | some ds =>
    rw [hexcess] at h
    cases h
  | none =>
    rw [hexcess] at h
    cases hnumber : literal.number? with
    | none =>
      rw [hnumber] at h
      cases h
    | some n =>
      rw [hnumber] at h
      cases h
      rfl

/-! ## Bracketed sequences -/

section

variable {σ : Type} {bracket : Bracket} {element : σ → Scan σ}

/-- In a longer text there are turns enough for what was read before. -/
theorem moreElements_append (helement : ∀ state, IsLocal (element state)) {turns enough : Nat}
    {state last : σ} (h : moreElements bracket element turns state cs = .ok (last, rest))
    (hturns : turns ≤ enough) (hmore : EndsNumber more) :
    moreElements bracket element enough state (cs ++ more) = .ok (last, rest ++ more) := by
  induction turns generalizing state cs enough with
  | zero => cases h
  | succ turns ih =>
    obtain ⟨enough, rfl⟩ := Nat.exists_eq_add_one.mpr (Nat.zero_lt_of_lt hturns)
    rw [moreElements] at h
    split at h
    · cases h
    · next c after hskip =>
      rw [moreElements, skipBlank_append_of_cons hskip]
      dsimp only
      split at h
      · next hclosing =>
        cases h
        rw [if_pos hclosing]
      · next hclosing =>
        rw [if_neg hclosing]
        split at h
        · next hcomma =>
          rw [if_pos hcomma]
          split at h
          · cases h
          · next d behind hskip =>
            rw [skipBlank_append_of_cons hskip]
            dsimp only
            split at h
            · cases h
            · next hclosing =>
              obtain ⟨⟨next, left⟩, hread, h⟩ := exists_of_bind_eq_ok h
              rw [if_neg hclosing, ← List.cons_append, helement state hread hmore]
              exact ih h (Nat.le_of_succ_le_succ hturns)
        · cases h

theorem isLocal_elements (helement : ∀ state, IsLocal (element state)) (state : σ) :
    IsLocal (elements bracket element state) := by
  refine .afterBlank fun c => .ite (.pure state) ?_
  intro cs last rest more h hmore
  obtain ⟨⟨next, left⟩, hread, h⟩ := exists_of_bind_eq_ok h
  dsimp only
  rw [← List.cons_append, helement state hread hmore]
  refine moreElements_append helement h ?_ hmore
  rw [List.length_append]
  omega

end

/-! ## Values -/

theorem scanKey_append {key : String} (h : scanKey cs = .ok (key, rest)) :
    scanKey (cs ++ more) = .ok (key, rest ++ more) := by
  unfold scanKey at h
  split at h
  · exact StringLiteral.scan_append h
  · cases h

theorem scanColon_append (h : scanColon cs = .ok rest) : scanColon (cs ++ more) = .ok (rest ++ more) := by
  unfold scanColon at h
  split at h
  · cases h
  · next c left hskip =>
    rw [scanColon, skipBlank_append_of_cons hskip]
    dsimp only
    split at h
    · next hc =>
      cases h
      rw [if_pos hc]
    · cases h

variable {value : Scan Json}

theorem isLocal_scanItem (hvalue : IsLocal value) (items : List Json) : IsLocal (scanItem value items) :=
  hvalue.map fun item => items ++ [item]

theorem isLocal_scanField (hvalue : IsLocal value) (fields : Fields) : IsLocal (scanField value fields) := by
  intro cs found rest more h hmore
  obtain ⟨⟨key, left⟩, hkey, h⟩ := exists_of_bind_eq_ok h
  obtain ⟨behind, hcolon, h⟩ := exists_of_bind_eq_ok h
  obtain ⟨⟨v, last⟩, hv, h⟩ := exists_of_bind_eq_ok h
  cases h
  simp only [scanField, scanKey_append hkey, scanColon_append hcolon, hvalue hv hmore, bind,
    Except.bind]

theorem isLocal_word (es : List Char) (doc : Json) :
    IsLocal fun cs => word es cs >>= fun rest => .ok (doc, rest) := by
  intro cs found rest more h _
  obtain ⟨left, hword, h⟩ := exists_of_bind_eq_ok h
  cases h
  change word es (cs ++ more) >>= _ = _
  rw [word_append hword]
  rfl

theorem isLocal_string : IsLocal StringLiteral.scan := by
  intro cs found rest more h _
  exact StringLiteral.scan_append h

/-- The first character that is not blank decides how a value is read. -/
theorem isLocal_scanForm {inner : Option (Scan Json)} (hinner : ∀ value ∈ inner, IsLocal value) :
    IsLocal (scanForm inner) := by
  refine .afterBlank fun c => .ite (isLocal_word _ _) (.ite (isLocal_word _ _) (.ite (isLocal_word _ _)
    (.ite (isLocal_string.map string) (.ite ((isLocal_scanNumber.map number).behind c) ?_))))
  cases inner with
  | none => exact .ite (.error _) (.ite (.error _) (.error _))
  | some value =>
    have hvalue := hinner value rfl
    exact .ite ((isLocal_elements (isLocal_scanItem hvalue) []).map array)
      (.ite ((isLocal_elements (isLocal_scanField hvalue) []).map object) (.error _))

/-- A value that begins a text is read alike wherever the text goes on, but for the rest of a number. -/
theorem isLocal_scanValue (n : Nat) : IsLocal (scanValue n) := by
  induction n with
  | zero =>
    refine isLocal_scanForm fun value hvalue => ?_
    cases hvalue
  | succ n ih =>
    refine isLocal_scanForm fun value hvalue => ?_
    cases hvalue
    exact ih

end Json

end HostBoundary
