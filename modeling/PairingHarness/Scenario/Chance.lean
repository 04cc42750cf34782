/-
What scenarios draw by chance.

A scenario may draw bytes for a payload and one channel id made up for
nobody. The id is a random identifier of version four: thirty-two
hexadecimal digits, of which the thirteenth tells the version and the
seventeenth starts with the bits one and zero.
-/

namespace PairingHarness

/-- What a scenario draws by chance. -/
structure Chance where
  byte : Nat → UInt8
  /-- A channel id made up for nobody. -/
  channelId : String

namespace Chance

def bytes (c : Chance) (n : Nat) : List UInt8 :=
  (List.range n).map c.byte

-- =========================================================== identifiers

/-- How many bytes an identifier takes. -/
def idSize : Nat := 16

/-- A byte of an identifier, with the bits set that tell version and
variant. -/
def idByte (source : Nat → UInt8) (index : Nat) : Nat :=
  let b := (source index).toNat
  if index = 6 then 0x40 + b % 0x10
  else if index = 8 then 0x80 + b % 0x40
  else b

/-- The identifier that bytes make. -/
def idOf (source : Nat → UInt8) : String :=
  String.ofList ((List.range idSize).flatMap fun i =>
    let b := idByte source i
    [Nat.digitChar (b / 16), Nat.digitChar (b % 16)])

/-- What is drawn from a source of random bytes: the id first, then the
payload. -/
def ofSource (source : Nat → UInt8) : Chance where
  byte n := source (idSize + n)
  channelId := idOf source

end Chance

end PairingHarness
