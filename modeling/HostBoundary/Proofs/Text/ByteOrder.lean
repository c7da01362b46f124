-- SUMMARY: The order of texts by their characters is the order of their bytes.
import HostBoundary.Text.Utf8
import Mathlib.Data.List.Basic

/-!
# Order of bytes

Texts are compared character by character. Their bytes compare in the same way: a character that takes more
bytes begins with a larger one, and of two characters that take equally many the first different byte tells
the larger one. So what is sorted as text is sorted by bytes.
-/

namespace HostBoundary

namespace Utf8

variable {v w n m base : Nat} {xs ys : Bytes}

theorem byte_cons_lt (hvw : v < w) (hw : w < 256) : UInt8.ofNat v :: xs < UInt8.ofNat w :: ys := by
  apply List.Lex.rel
  simp only [UInt8.lt_iff_toNat_lt, UInt8.toNat_ofNat']
  omega

/-- Where all bits in front agree, the larger number has the larger byte, or these bits agree as well. -/
theorem bits_cons_lt (hvw : v < w) (hfront : v / (n * m) = w / (n * m)) (hm : 0 < m) (hbase : m + base ≤ 256)
    (hback : v / n = w / n → xs < ys) :
    UInt8.ofNat (v / n % m + base) :: xs < UInt8.ofNat (w / n % m + base) :: ys := by
  rw [← Nat.div_div_eq_div_mul, ← Nat.div_div_eq_div_mul] at hfront
  have hle : v / n ≤ w / n := Nat.div_le_div_right (Nat.le_of_lt hvw)
  rcases Nat.lt_or_eq_of_le hle with hlt | heq
  · have hv := Nat.div_add_mod (v / n) m
    have hw := Nat.div_add_mod (w / n) m
    have hbits := Nat.mod_lt (w / n) hm
    rw [hfront] at hv
    exact byte_cons_lt (by omega) (by omega)
  · rw [heq]
    exact .cons (hback heq)

/-- Of two characters, the larger one has larger bytes, whatever stands behind them. -/
theorem utf8EncodeChar_append_lt {c d : Char} (h : c < d) (xs ys : Bytes) :
    String.utf8EncodeChar c ++ xs < String.utf8EncodeChar d ++ ys := by
  have hvw : c.val.toNat < d.val.toNat := h
  have hw : d.val.toNat < 0xD800 ∨ 0xDFFF < d.val.toNat ∧ d.val.toNat < 0x110000 := d.valid
  unfold String.utf8EncodeChar
  dsimp only
  generalize c.val.toNat = v at hvw
  generalize d.val.toNat = w at hvw hw
  -- The smaller character takes one to four bytes, and the larger one as many or more. With more bytes the
  -- first one is larger; with equally many the first bits that differ are.
  split
  · split
    · exact byte_cons_lt hvw (by omega)
    split
    · exact byte_cons_lt (by omega) (by omega)
    split
    · exact byte_cons_lt (by omega) (by omega)
    · exact byte_cons_lt (by omega) (by omega)
  split
  · rw [if_neg (by omega : ¬ w ≤ 127)]
    split
    · exact bits_cons_lt hvw (by omega) (by omega) (by omega) fun h64 =>
        byte_cons_lt (by omega) (by omega)
    split
    · exact byte_cons_lt (by omega) (by omega)
    · exact byte_cons_lt (by omega) (by omega)
  split
  · rw [if_neg (by omega : ¬ w ≤ 127), if_neg (by omega : ¬ w ≤ 2047)]
    split
    · exact bits_cons_lt hvw (by omega) (by omega) (by omega) fun h4096 =>
        bits_cons_lt hvw h4096 (by omega) (by omega) fun h64 => byte_cons_lt (by omega) (by omega)
    · exact byte_cons_lt (by omega) (by omega)
  · rw [if_neg (by omega : ¬ w ≤ 127), if_neg (by omega : ¬ w ≤ 2047), if_neg (by omega : ¬ w ≤ 65535)]
    exact bits_cons_lt hvw (by omega) (by omega) (by omega) fun h262144 =>
      bits_cons_lt hvw h262144 (by omega) (by omega) fun h4096 =>
        bits_cons_lt hvw h4096 (by omega) (by omega) fun h64 => byte_cons_lt (by omega) (by omega)

theorem encode_lt_encode {as bs : List Char} (h : as < bs) : encode as < encode bs := by
  induction h with
  | @nil c rest =>
    obtain ⟨first, following, hc⟩ := List.exists_cons_of_ne_nil (String.utf8EncodeChar_ne_nil (c := c))
    rw [encode_cons, hc]
    exact .nil
  | rel hlt => exact utf8EncodeChar_append_lt hlt _ _
  | cons _ ih => exact List.append_left_lt ih

end Utf8

theorem utf8_lt_utf8 {a b : String} (h : a < b) : utf8 a < utf8 b := Utf8.encode_lt_encode h

end HostBoundary
