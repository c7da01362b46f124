-- SUMMARY: Reading an integer undoes writing it, whatever comes behind that is no part of a number.
import HostBoundary.Json.Literal
import HostBoundary.Json.Writer
import Mathlib.Data.List.TakeDrop

/-!
# Written integers

An integer is written as digits, after a minus sign if it is negative. The scanner takes them all
and nothing more, as long as what comes behind does not go on with the number.
-/

namespace HostBoundary

namespace Json

/-- What may stand behind a number: the end of the text, or a character that cannot go on with it. -/
def EndsNumber (rest : List Char) : Prop :=
  ∀ c ∈ rest.head?, c.isDigit = false ∧ c ≠ '.' ∧ c ≠ 'e' ∧ c ≠ 'E'

theorem endsNumber_nil : EndsNumber [] := by
  intro c hc
  cases hc

theorem endsNumber_cons {c : Char} (rest : List Char)
    (h : c.isDigit = false ∧ c ≠ '.' ∧ c ≠ 'e' ∧ c ≠ 'E') : EndsNumber (c :: rest) := by
  intro d hd
  cases hd
  exact h

namespace Literal

variable {rest : List Char} {atEnd : Cause}

/-! ## The parts of a literal -/

theorem spanDigits_append {ds : List Char} (hds : ∀ d ∈ ds, d.isDigit) (hrest : EndsNumber rest) :
    spanDigits (ds ++ rest) = (ds, rest) := by
  have hstop : rest.takeWhile Char.isDigit = [] ∧ rest.dropWhile Char.isDigit = rest := by
    cases rest with
    | nil => exact ⟨rfl, rfl⟩
    | cons c more =>
      have hc : c.isDigit = false := (hrest c rfl).1
      exact ⟨List.takeWhile_cons_of_neg (by simp [hc]), List.dropWhile_cons_of_neg (by simp [hc])⟩
  rw [spanDigits, List.span_eq_takeWhile_dropWhile, List.takeWhile_append_of_pos hds,
    List.dropWhile_append_of_pos hds, hstop.1, hstop.2, List.append_nil]

/-- The digits before the point are taken as they were written. -/
theorem scanWhole_digits (n : Nat) (hrest : EndsNumber rest) :
    scanWhole atEnd (Decimal.digits n ++ rest) = .ok (Decimal.digits n, rest) := by
  obtain ⟨d, ds, hd⟩ := List.exists_cons_of_ne_nil (Decimal.digits_ne_nil n)
  have hdigits : ∀ c ∈ d :: ds, c.isDigit := by
    intro c hc
    rw [← hd] at hc
    exact Decimal.isDigit_of_mem_digits hc
  by_cases hn : n = 0
  · -- A zero stands alone, so the scanner looks at what comes behind it.
    subst hn
    cases rest with
    | nil => rfl
    | cons c more =>
      have hc : c.isDigit = false := (hrest c rfl).1
      change (if c.isDigit then _ else _) = _
      rw [hc]
      rfl
  · have hzero : d ≠ '0' := by
      have := Decimal.head?_digits hn
      rwa [hd, List.head?_cons, ne_eq, Option.some.injEq] at this
    rw [hd, List.cons_append]
    unfold scanWhole
    split
    · next heq => exact absurd (List.cons.inj heq).1 hzero
    · rw [someDigits, if_pos (hdigits d List.mem_cons_self), ← List.cons_append,
        spanDigits_append hdigits hrest]

theorem scanFraction_none (hrest : EndsNumber rest) : scanFraction atEnd rest = .ok ([], rest) := by
  unfold scanFraction
  split
  · exact absurd rfl (hrest '.' rfl).2.1
  · rfl

theorem scanExponent_none (literal : Literal) (hrest : EndsNumber rest) :
    scanExponent atEnd literal rest = .ok (literal, rest) := by
  cases rest with
  | nil => rfl
  | cons c more =>
    have hc := hrest c rfl
    rw [scanExponent, if_neg (not_or.mpr hc.2.2)]

/-! ## Whole literals -/

/-- Reads the parts of a literal from after its sign. -/
def scanUnsigned (atEnd : Cause) (negative : Bool) : Scan Literal := fun cs =>
  scanWhole atEnd cs >>= fun whole => scanFraction atEnd whole.2 >>= fun fraction =>
    scanExponent atEnd { negative, whole := whole.1, fraction := fraction.1 } fraction.2

theorem scan_minus (cs : List Char) : scan atEnd ('-' :: cs) = scanUnsigned atEnd true cs := rfl

theorem scan_cons_of_ne {c : Char} {cs : List Char} (h : c ≠ '-') :
    scan atEnd (c :: cs) = scanUnsigned atEnd false (c :: cs) := by
  unfold scan
  split
  rename_i sign
  split at sign
  · next heq => exact absurd (List.cons.inj heq).1 h
  · cases sign
    rfl

theorem scanUnsigned_digits (n : Nat) (negative : Bool) (hrest : EndsNumber rest) :
    scanUnsigned atEnd negative (Decimal.digits n ++ rest) =
      .ok ({ negative, whole := Decimal.digits n }, rest) := by
  simp only [scanUnsigned, bind, Except.bind, scanWhole_digits n hrest, scanFraction_none hrest,
    scanExponent_none _ hrest]

/-- A written integer is taken apart into its sign and its digits. -/
theorem scan_integer (n : Int) (hrest : EndsNumber rest) :
    scan atEnd (Decimal.integer n ++ rest) =
      .ok ({ negative := n < 0, whole := Decimal.digits n.natAbs }, rest) := by
  by_cases hn : n < 0
  · rw [Decimal.integer, if_pos hn, List.cons_append, decide_eq_true hn, scan_minus,
      scanUnsigned_digits n.natAbs true hrest]
  · obtain ⟨d, ds, hd⟩ := List.exists_cons_of_ne_nil (Decimal.digits_ne_nil n.natAbs)
    have hminus : d ≠ '-' := by
      rintro rfl
      have : ('-' : Char).isDigit := Decimal.isDigit_of_mem_digits (hd ▸ List.mem_cons_self)
      exact absurd this (by decide)
    rw [Decimal.integer, if_neg hn, decide_eq_false hn, hd, List.cons_append, scan_cons_of_ne hminus,
      ← List.cons_append, ← hd, scanUnsigned_digits n.natAbs false hrest]

/-- The parts of a written integer denote that integer. -/
theorem integer?_integer (n : Int) :
    integer? { negative := n < 0, whole := Decimal.digits n.natAbs } = some n := by
  simp only [integer?, List.isEmpty_nil, Bool.not_false, Bool.and_self, if_true,
    Decimal.ofDigits_digits]
  split
  · next hneg =>
    have hn : n < 0 := of_decide_eq_true hneg
    rw [if_neg (by omega), show -(n.natAbs : Int) = n by omega]
  · next hpos =>
    have hn : ¬ n < 0 := fun h => hpos (decide_eq_true h)
    rw [show (n.natAbs : Int) = n by omega]

end Literal

/-- The number that is found where an integer is written, unless it is too large for any. -/
def writtenNumber (n : Int) : Except Cause Number :=
  match Literal.number? { negative := n < 0, whole := Decimal.digits n.natAbs } with
  | some found => .ok found
  | none => .error .numberOutOfRange

theorem writtenNumber_of_isWord {n : Int} (h : IsWord n) : writtenNumber n = .ok (.int n h) := by
  have hnumber : Literal.number? { negative := n < 0, whole := Decimal.digits n.natAbs } =
      some (.int n h) := by
    rw [Literal.number?, Literal.integer?_integer]
    exact dif_pos h
  rw [writtenNumber, hnumber]

/-- What is found where an integer of more than one word is written is no integer. -/
theorem writtenNumber_cases {n : Int} (h : ¬ IsWord n) :
    (∃ x, writtenNumber n = .ok (.float x)) ∨ writtenNumber n = .error .numberOutOfRange := by
  have hnumber : Literal.number? { negative := n < 0, whole := Decimal.digits n.natAbs } =
      (Literal.float? { negative := n < 0, whole := Decimal.digits n.natAbs }).map .float := by
    rw [Literal.number?, Literal.integer?_integer]
    exact dif_neg h
  rw [writtenNumber, hnumber]
  cases Literal.float? { negative := n < 0, whole := Decimal.digits n.natAbs } with
  | none => exact .inr rfl
  | some x => exact .inl ⟨x, rfl⟩

theorem scanNumber_integer_eq (n : Int) {rest : List Char} (hrest : EndsNumber rest) :
    scanNumber (Decimal.integer n ++ rest) =
      match writtenNumber n with
      | .ok found => .ok (found, rest)
      | .error cause => .error (.before cause rest) := by
  have hexcess : Literal.excess? { negative := n < 0, whole := Decimal.digits n.natAbs } = none := by
    rw [Literal.excess?]
    split
    · rfl
    · rfl
  simp only [scanNumber, Literal.scan_integer n hrest, bind, Except.bind, hexcess]
  rw [writtenNumber]
  cases Literal.number? { negative := n < 0, whole := Decimal.digits n.natAbs } with
  | none => rfl
  | some found => rfl

/-- Reading an integer of one word undoes writing it. -/
theorem scanNumber_integer {n : Int} (h : IsWord n) {rest : List Char} (hrest : EndsNumber rest) :
    scanNumber (Decimal.integer n ++ rest) = .ok (.int n h, rest) := by
  rw [scanNumber_integer_eq n hrest, writtenNumber_of_isWord h]

end Json

end HostBoundary
