/-
Base64 in the standard alphabet, padded.

Three bytes become four characters of six bits each, the first byte's high
bits first. One byte left over gives two characters and two equals signs,
two bytes left over three characters and one.
-/

namespace PairingHarness.Text.Base64

/-- The character for six bits: capitals, small letters, digits, plus,
slash. -/
def symbol (n : Nat) : Char :=
  if n < 26 then Char.ofNat (n + 65)
  else if n < 52 then Char.ofNat (n + 71)
  else if n < 62 then Char.ofNat (n - 4)
  else if n = 62 then '+'
  else '/'

/-- The bytes written in groups of four characters. -/
def encode : List UInt8 → List Char
  | [] => []
  | [a] => [symbol (a.toNat / 4), symbol (a.toNat % 4 * 16), '=', '=']
  | [a, b] =>
    [symbol (a.toNat / 4), symbol (a.toNat % 4 * 16 + b.toNat / 16),
      symbol (b.toNat % 16 * 4), '=']
  | a :: b :: c :: rest =>
    symbol (a.toNat / 4) :: symbol (a.toNat % 4 * 16 + b.toNat / 16)
      :: symbol (b.toNat % 16 * 4 + c.toNat / 64) :: symbol (c.toNat % 64)
      :: encode rest

end PairingHarness.Text.Base64
