-- SUMMARY: Reading a string literal undoes writing it, whatever comes behind.
import HostBoundary.Json.StringLiteral

/-!
# Writing and reading string literals

Each character is found again as it was written: as itself, by the letter of its escape, or by number.
So a literal ends at its own closing quote, and what comes behind is left.
-/

namespace HostBoundary

namespace Json

namespace StringLiteral

/-! ## One character -/

/-- An escape stands for one character, and reading goes on behind it. -/
theorem scanChars_escape {rest : List Char} {d : Char} {taken : Nat}
    (h : escape rest = .ok (d, taken)) :
    scanChars ('\\' :: rest) =
      (scanChars (rest.drop taken)).map fun found => (d :: found.1, found.2) := by
  rw [scanChars, if_neg (by decide), if_pos rfl, h]
  simp only [bind, Except.bind]
  cases scanChars (rest.drop taken) <;> rfl

/-- A character that needs no escape stands for itself. -/
theorem scanChars_cons {c : Char} {rest : List Char} (hquote : c ≠ '"') (hslash : c ≠ '\\')
    (hcontrol : isControl c = false) :
    scanChars (c :: rest) = (scanChars rest).map fun found => (c :: found.1, found.2) := by
  rw [scanChars, if_neg hquote, if_neg hslash, if_neg (by simp only [hcontrol]; decide)]
  cases scanChars rest <;> rfl

private theorem hexValue?_hexDigit : ∀ n < 16, hexValue? (hexDigit n) = some n := by decide +kernel

private theorem utf8Size_hexDigit : ∀ n < 16, (hexDigit n).utf8Size = 1 := by decide +kernel

/-- Two hexadecimal digits behind two zeros are read as the number that they were written for. -/
theorem hexUnit_hexDigit {n : Nat} (h : n < 256) (cs : List Char) :
    hexUnit ('0' :: '0' :: hexDigit (n / 16) :: hexDigit (n % 16) :: cs) = .ok n := by
  have hzero : hexValue? '0' = some 0 ∧ ('0' : Char).utf8Size = 1 := by decide
  have hhigh : n / 16 < 16 := by omega
  have hlow : n % 16 < 16 := by omega
  rw [hexUnit, if_neg]
  · simp only [hexNumber?, hzero.1, hexValue?_hexDigit _ hhigh, hexValue?_hexDigit _ hlow,
      Option.bind_some]
    congr 1
    omega
  · simp only [Utf8.length, List.foldr_cons, hzero.2, utf8Size_hexDigit _ hhigh,
      utf8Size_hexDigit _ hlow]
    omega

/-- A control character that is written by number is found again. -/
theorem escape_control {c : Char} (h : isControl c) (cs : List Char) :
    escape ('u' :: '0' :: '0' :: hexDigit (c.toNat / 16) :: hexDigit (c.toNat % 16) :: cs) =
      .ok (c, 5) := by
  have hc : c.toNat < 32 := UInt32.lt_iff_toNat_lt.1 (of_decide_eq_true h : c.val < ' '.val)
  rw [escape, hexEscape, hexUnit_hexDigit (by omega)]
  simp only [bind, Except.bind]
  rw [if_neg, if_neg, Char.ofNat_toNat]
  · simp only [isLeading, Bool.and_eq_true, decide_eq_true_eq]
    omega
  · simp only [isTrailing, Bool.and_eq_true, decide_eq_true_eq]
    omega

/-- Reading finds each character as it was written. -/
theorem scanChars_writeChar (c : Char) (cs : List Char) :
    scanChars (writeChar c ++ cs) = (scanChars cs).map fun found => (c :: found.1, found.2) := by
  have letter {d e : Char} (h : escape (e :: cs) = .ok (d, 1)) :
      scanChars (['\\', e] ++ cs) = (scanChars cs).map fun found => (d :: found.1, found.2) :=
    scanChars_escape h
  unfold writeChar
  split
  · subst c; exact letter rfl
  split
  · subst c; exact letter rfl
  split
  · subst c; exact letter rfl
  split
  · subst c; exact letter rfl
  split
  · subst c; exact letter rfl
  split
  · subst c; exact letter rfl
  split
  · subst c; exact letter rfl
  split
  · exact scanChars_escape (escape_control ‹_› cs)
  · exact scanChars_cons ‹_› ‹_› (Bool.eq_false_iff.2 ‹_›)

/-! ## A whole literal -/

theorem scanChars_flatMap_writeChar (cs rest : List Char) :
    scanChars (cs.flatMap writeChar ++ '"' :: rest) = .ok (cs, rest) := by
  induction cs with
  | nil => rw [List.flatMap_nil, List.nil_append, scanChars, if_pos rfl]
  | cons c more ih =>
    rw [List.flatMap_cons, List.append_assoc, scanChars_writeChar, ih]
    rfl

/-- Reading a literal from after its opening quote undoes writing it. -/
theorem scan_write (text : String) (rest : List Char) :
    scan ((write text).tail ++ rest) = .ok (text, rest) := by
  simp only [write, List.tail_cons, List.append_assoc, List.cons_append, List.nil_append, scan,
    scanChars_flatMap_writeChar, bind, Except.bind, String.ofList_toList]

end StringLiteral

end Json

end HostBoundary
