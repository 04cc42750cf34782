/-
Quoted text, as messages show a raw value.

The value stands between double quotes on one line. A quote and a backslash
follow a backslash; NUL, tab, carriage return and newline have a letter;
every other concealed character is written by its number, backslash-u with
the hexadecimal digits in braces, small letters, no leading zeros.
-/
import PairingHarness.Text.Concealed

namespace PairingHarness.Text

/-- The hexadecimal digits of a number, small letters, no leading zeros. -/
def hexDigits (n : Nat) : List Char :=
  Nat.toDigits 16 n

/-- One character as it stands inside quotes. -/
def quotedChar (c : Char) : List Char :=
  if c = '\x00' then ['\\', '0']
  else if c = '\t' then ['\\', 't']
  else if c = '\x0d' then ['\\', 'r']
  else if c = '\n' then ['\\', 'n']
  else if c = '\\' then ['\\', '\\']
  else if c = '"' then ['\\', '"']
  else if isConcealed c then
    ['\\', 'u', '\x7b'] ++ hexDigits c.toNat ++ ['\x7d']
  else [c]

/-- The characters of a value between double quotes. -/
def quotedChars (cs : List Char) : List Char :=
  '"' :: cs.flatMap quotedChar ++ ['"']

/-- The value between double quotes, unambiguous and on one line. -/
def quoted (s : String) : String :=
  String.ofList (quotedChars s.toList)

end PairingHarness.Text
