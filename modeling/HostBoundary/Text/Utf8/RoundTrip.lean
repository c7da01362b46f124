-- SUMMARY: Decoding undoes encoding, for one character and for a whole text.
import HostBoundary.Text.Utf8

/-!
# Encoding and decoding again

The first byte of an encoded character announces its length, and each byte that follows is within its
bounds, so decoding finds the character again and leaves what comes behind it.
-/

namespace HostBoundary

namespace Utf8

private theorem toNat_ofNat_of_lt {n : Nat} (h : n < 256) : (UInt8.ofNat n).toNat = n := by
  simp only [UInt8.toNat_ofNat']
  omega

private theorem gather_cons {bits following : Nat} {low high b : UInt8} {rest : Bytes}
    (h : low ≤ b ∧ b ≤ high) :
    gather bits low high (following + 1) (b :: rest) =
      ((gather (bits * 64 + b.toNat % 64) 0x80 0xBF following rest).1,
        (gather (bits * 64 + b.toNat % 64) 0x80 0xBF following rest).2 + 1) := by
  rw [gather, if_pos h]

/-- What an encoded character begins with is decoded as that character, whatever comes behind. -/
theorem leading_encodeChar (c : Char) : ∃ first following,
    String.utf8EncodeChar c = first :: following ∧
      ∀ rest, leading first (following ++ rest) = (c, following.length) := by
  have hv : c.val.toNat < 0xD800 ∨ 0xDFFF < c.val.toNat ∧ c.val.toNat < 0x110000 := c.valid
  have hc : Char.ofNat c.val.toNat = c := Char.ofNat_toNat c
  unfold String.utf8EncodeChar
  dsimp only
  generalize c.val.toNat = v at hv hc
  split
  · refine ⟨_, _, rfl, fun rest => ?_⟩
    have h1 := toNat_ofNat_of_lt (n := v) (by omega)
    simp only [leading, Lead.ofByte?, UInt8.lt_iff_toNat_lt, h1, UInt8.reduceToNat]
    rw [if_pos (by omega)]
    simp only [gather, hc, List.length_nil]
  split
  · refine ⟨_, _, rfl, fun rest => ?_⟩
    have h1 := toNat_ofNat_of_lt (n := v / 64 % 32 + 192) (by omega)
    have h2 := toNat_ofNat_of_lt (n := v % 64 + 128) (by omega)
    simp only [leading, Lead.ofByte?, UInt8.lt_iff_toNat_lt, h1, UInt8.reduceToNat,
      List.cons_append, List.nil_append]
    rw [if_neg (by omega), if_neg (by omega), if_pos (by omega)]
    dsimp only
    rw [gather_cons (by simp only [UInt8.le_iff_toNat_le, h2, UInt8.reduceToNat]; omega)]
    simp only [gather, h2, List.length_cons, List.length_nil]
    rw [show (v / 64 % 32 + 192 - 192) * 64 + (v % 64 + 128) % 64 = v by omega, hc]
  split
  · refine ⟨_, _, rfl, fun rest => ?_⟩
    have h1 := toNat_ofNat_of_lt (n := v / 4096 % 16 + 224) (by omega)
    have h2 := toNat_ofNat_of_lt (n := v / 64 % 64 + 128) (by omega)
    have h3 := toNat_ofNat_of_lt (n := v % 64 + 128) (by omega)
    simp only [leading, Lead.ofByte?, UInt8.lt_iff_toNat_lt, ← UInt8.toNat_inj, h1,
      UInt8.reduceToNat, List.cons_append, List.nil_append]
    rw [if_neg (by omega), if_neg (by omega), if_neg (by omega), if_pos (by omega)]
    dsimp only
    rw [gather_cons (by
        simp only [UInt8.le_iff_toNat_le, h2, apply_ite UInt8.toNat, UInt8.reduceToNat]
        constructor <;> split <;> omega),
      gather_cons (by simp only [UInt8.le_iff_toNat_le, h3, UInt8.reduceToNat]; omega)]
    simp only [gather, h2, h3, List.length_cons, List.length_nil]
    rw [show ((v / 4096 % 16 + 224 - 224) * 64 + (v / 64 % 64 + 128) % 64) * 64 +
      (v % 64 + 128) % 64 = v by omega, hc]
  · refine ⟨_, _, rfl, fun rest => ?_⟩
    have h1 := toNat_ofNat_of_lt (n := v / 262144 % 8 + 240) (by omega)
    have h2 := toNat_ofNat_of_lt (n := v / 4096 % 64 + 128) (by omega)
    have h3 := toNat_ofNat_of_lt (n := v / 64 % 64 + 128) (by omega)
    have h4 := toNat_ofNat_of_lt (n := v % 64 + 128) (by omega)
    simp only [leading, Lead.ofByte?, UInt8.lt_iff_toNat_lt, ← UInt8.toNat_inj, h1,
      UInt8.reduceToNat, List.cons_append, List.nil_append]
    rw [if_neg (by omega), if_neg (by omega), if_neg (by omega), if_neg (by omega),
      if_pos (by omega)]
    dsimp only
    rw [gather_cons (by
        simp only [UInt8.le_iff_toNat_le, h2, apply_ite UInt8.toNat, UInt8.reduceToNat]
        constructor <;> split <;> omega),
      gather_cons (by simp only [UInt8.le_iff_toNat_le, h3, UInt8.reduceToNat]; omega),
      gather_cons (by simp only [UInt8.le_iff_toNat_le, h4, UInt8.reduceToNat]; omega)]
    simp only [gather, h2, h3, h4, List.length_cons, List.length_nil]
    rw [show (((v / 262144 % 8 + 240 - 240) * 64 + (v / 4096 % 64 + 128) % 64) * 64 +
      (v / 64 % 64 + 128) % 64) * 64 + (v % 64 + 128) % 64 = v by omega, hc]

/-- Decoding undoes encoding. -/
theorem decode_encode (cs : List Char) : decode (encode cs) = cs := by
  induction cs with
  | nil => rw [encode_nil, decode]
  | cons c rest ih =>
    obtain ⟨first, following, hc, hl⟩ := leading_encodeChar c
    rw [encode_cons, hc, List.cons_append, decode, hl, List.drop_left, ih]

/-- Different texts have different bytes. -/
theorem encode_injective {as bs : List Char} (h : encode as = encode bs) : as = bs := by
  rw [← decode_encode as, h, decode_encode]

end Utf8

end HostBoundary
