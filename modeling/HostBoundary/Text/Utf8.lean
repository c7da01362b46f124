-- SUMMARY: Bytes of text: UTF-8 encoding, length in bytes, and the lenient decoding that repairs ill-formed input.

/-!
# UTF-8

Text is encoded character by character. Decoding is lenient: a byte that starts no character, or
a character that breaks off, stands for U+FFFD and takes with it the bytes that could still have
belonged to a character. So decoding never fails, and it undoes encoding.
-/

namespace HostBoundary

/-- A block of bytes. -/
abbrev Bytes := List UInt8

namespace Utf8

/-! ## Encoding -/

/-- The UTF-8 form of a sequence of characters. -/
def encode (cs : List Char) : Bytes := cs.flatMap String.utf8EncodeChar

/-- How many bytes the UTF-8 form takes. -/
def length (cs : List Char) : Nat := cs.foldr (fun c n => c.utf8Size + n) 0

@[simp] theorem encode_nil : encode [] = [] := rfl

@[simp] theorem encode_cons (c : Char) (cs : List Char) :
    encode (c :: cs) = String.utf8EncodeChar c ++ encode cs := rfl

@[simp] theorem encode_append (as bs : List Char) : encode (as ++ bs) = encode as ++ encode bs := by
  simp only [encode, List.flatMap_append]

/-- Parts of a text can be encoded one by one. -/
theorem encode_flatten (parts : List (List Char)) :
    encode parts.flatten = (parts.map encode).flatten := by
  induction parts with
  | nil => rfl
  | cons part parts ih => rw [List.flatten_cons, encode_append, ih, List.map_cons, List.flatten_cons]

@[simp] theorem length_encode (cs : List Char) : (encode cs).length = length cs := by
  induction cs with
  | nil => rfl
  | cons c rest ih => rw [encode_cons, List.length_append, ih, String.length_utf8EncodeChar]; rfl

theorem length_append (as bs : List Char) : length (as ++ bs) = length as + length bs := by
  simp only [← length_encode, encode_append, List.length_append]

/-! ## Decoding -/

/-- What the first byte of a character announces: the bits it carries, how many bytes follow, and
the bounds of the first of them. Bounds narrower than those of any other following byte rule out
over-long forms, surrogates and values above U+10FFFF. -/
structure Lead where
  bits : Nat
  following : Nat
  low : UInt8 := 0x80
  high : UInt8 := 0xBF

/-- The announcement of a first byte, if it can start a character. -/
def Lead.ofByte? (b : UInt8) : Option Lead :=
  if b < 0x80 then some { bits := b.toNat, following := 0 }
  else if b < 0xC2 then none
  else if b < 0xE0 then some { bits := b.toNat - 0xC0, following := 1 }
  else if b < 0xF0 then
    some { bits := b.toNat - 0xE0, following := 2,
           low := if b = 0xE0 then 0xA0 else 0x80, high := if b = 0xED then 0x9F else 0xBF }
  else if b < 0xF5 then
    some { bits := b.toNat - 0xF0, following := 3,
           low := if b = 0xF0 then 0x90 else 0x80, high := if b = 0xF4 then 0x8F else 0xBF }
  else none

/-- Adds the bits of `following` more bytes. Gives the sum, unless a byte is missing or out of
bounds, and the number of bytes that were in order. -/
def gather (bits : Nat) (low high : UInt8) : Nat → Bytes → Option Nat × Nat
  | 0, _ => (some bits, 0)
  | _ + 1, [] => (none, 0)
  | following + 1, b :: rest =>
    if low ≤ b ∧ b ≤ high then
      let (sum, taken) := gather (bits * 64 + b.toNat % 64) 0x80 0xBF following rest
      (sum, taken + 1)
    else (none, 0)

/-- The character that stands for what cannot be decoded. -/
def replacement : Char := '\uFFFD'

/-- The character that a block starts with, and how many bytes it takes after its first. -/
def leading (first : UInt8) (rest : Bytes) : Char × Nat :=
  match Lead.ofByte? first with
  | none => (replacement, 0)
  | some lead =>
    match gather lead.bits lead.low lead.high lead.following rest with
    | (some code, taken) => (Char.ofNat code, taken)
    | (none, taken) => (replacement, taken)

/-- The characters of a block of bytes, repaired where it is ill-formed. -/
def decode (bytes : Bytes) : List Char :=
  match bytes with
  | [] => []
  | first :: rest => (leading first rest).1 :: decode (rest.drop (leading first rest).2)
termination_by bytes.length
decreasing_by simp only [List.length_drop, List.length_cons]; omega

/-- The characters of a well-formed block: decoding has nothing to repair, so encoding leads back. -/
def decode? (bytes : Bytes) : Option (List Char) :=
  if encode (decode bytes) = bytes then some (decode bytes) else none

end Utf8

/-- The UTF-8 form of a text. -/
def utf8 (text : String) : Bytes := Utf8.encode text.toList

end HostBoundary
