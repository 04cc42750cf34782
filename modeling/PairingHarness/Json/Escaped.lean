/-
Characters as they stand in a string of the frame format.

Every text has its string: a quote and a backslash follow a backslash, a
control character becomes one of five letters or four hexadecimal digits
behind a backslash, and every other character stands for itself.
-/

namespace PairingHarness.Json

/-- A character as it stands between the quotes of a string. -/
def escapedChar (c : Char) : List Char :=
  if c = '"' || c = '\\' then ['\\', c]
  else if c = '\n' then ['\\', 'n']
  else if c = '\x0d' then ['\\', 'r']
  else if c = '\t' then ['\\', 't']
  else if c = '\x08' then ['\\', 'b']
  else if c = '\x0c' then ['\\', 'f']
  else if c.toNat < 0x20 then
    let digits := Nat.toDigits 16 c.toNat
    ['\\', 'u'] ++ List.replicate (4 - digits.length) '0' ++ digits
  else [c]

end PairingHarness.Json
