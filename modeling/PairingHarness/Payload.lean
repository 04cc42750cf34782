/-
What the scenarios send.

Messages in a series carry their number. A random payload is bytes written
in Base64, since the service relays text only; it is at least as long as the
number of bytes.
-/
import PairingHarness.Text.Base64

namespace PairingHarness.Payload

/-- The message of a series with this number. -/
def numbered (index : Nat) : String :=
  "This is message #" ++ toString index

/-- Bytes as text that can be relayed. -/
def printable (bytes : List UInt8) : String :=
  String.ofList (Text.Base64.encode bytes)

end PairingHarness.Payload
