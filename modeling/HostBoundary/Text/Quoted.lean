-- SUMMARY: The quoted form in which texts appear inside messages.
import HostBoundary.Text.Unprintable
import HostBoundary.Decimal.Digits

/-!
# Quoted texts

Inside a message a text stands between double quotes. Quotes, backslashes and common control
characters are written with a backslash; other characters that cannot be shown are written by
number.
-/

namespace HostBoundary

namespace Quoted

/-- The digits of a number in lower-case hexadecimal. -/
def hexDigits (n : Nat) : List Char := Nat.toDigits 16 n

/-- A character as it stands between quotes. -/
def writeChar (c : Char) : List Char :=
  if c = '\x00' then ['\\', '0']
  else if c = '\t' then ['\\', 't']
  else if c = '\r' then ['\\', 'r']
  else if c = '\n' then ['\\', 'n']
  else if c = '\\' then ['\\', '\\']
  else if c = '"' then ['\\', '"']
  else if Unprintable.contains c then '\\' :: 'u' :: '{' :: (hexDigits c.toNat ++ ['}'])
  else [c]

/-- A text between quotes. -/
def write (text : String) : String :=
  String.ofList ('"' :: (text.toList.flatMap writeChar ++ ['"']))

end Quoted

end HostBoundary
