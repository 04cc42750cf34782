/-
Times in seconds with one decimal.

The number of seconds is first rounded to a double, and the double is then
rounded to tenths; where it lies exactly between two tenths, the even one is
taken.
-/
import PairingHarness.Double

namespace PairingHarness.Decimal

/-- Milliseconds as seconds with one decimal. -/
def seconds (ms : Nat) : String :=
  let pattern := Double.nearest ms 1000
  let tenths := Double.roundDiv (10 * Double.units pattern) Double.one
  toString (tenths / 10) ++ "." ++ toString (tenths % 10)

end PairingHarness.Decimal
