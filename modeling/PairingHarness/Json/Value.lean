/-
JSON values.

A number is a whole number when it is written without point and exponent and
fits sixty-four bits, signed or not; any other number is a double. An
object's members stand under distinct names.
-/
import PairingHarness.Double

namespace PairingHarness.Json

inductive Number where
  | integer (value : Int)
  | double (value : Double)
  deriving DecidableEq, Repr

inductive Value where
  | null
  | boolean (value : Bool)
  | number (value : Number)
  | text (value : String)
  | array (items : List Value)
  | object (members : List (String × Value))
  deriving Repr

/-- Puts a member in front of those after it, of which one of the same name
prevails. -/
def addMember {α : Type} (name : String) (value : α)
    (later : List (String × α)) :
    List (String × α) :=
  if later.any (·.1 == name) then later else (name, value) :: later

end PairingHarness.Json
