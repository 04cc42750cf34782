/-
Whole numbers written in decimal, read with a bound.

A number is an optional plus sign and one or more ASCII digits, any number
of leading zeros among them. Reading goes from left to right and stops at
the first character that decides: a character that is no digit, or a digit
with which the value would pass the bound. A sign alone is no number, and
neither is anything with a minus sign.
-/

namespace PairingHarness.Decimal

-- ================================================================ faults

/-- Why a text is no number in range. -/
inductive Fault where
  | empty
  | invalidDigit
  | tooLarge
  deriving DecidableEq, Repr

def Fault.message : Fault → String
  | .empty => "cannot parse integer from empty string"
  | .invalidDigit => "invalid digit found in string"
  | .tooLarge => "number too large to fit in target type"

-- =============================================================== reading

/-- The value of an ASCII digit. -/
def digit? (c : Char) : Option Nat :=
  if 0x30 ≤ c.toNat ∧ c.toNat ≤ 0x39 then some (c.toNat - 0x30) else none

/-- Reads the digits on from the value of those already read. -/
def readOn (bound : Nat) : Nat → List Char → Except Fault Nat
  | n, [] => .ok n
  | n, c :: rest =>
    match digit? c with
    | none => .error .invalidDigit
    | some d =>
      if n * 10 + d ≤ bound then readOn bound (n * 10 + d) rest
      else .error .tooLarge

/-- The number that the characters write, at most `bound`. -/
def read (bound : Nat) : List Char → Except Fault Nat
  | [] => .error .empty
  | ['+'] => .error .invalidDigit
  | c :: rest => readOn bound 0 (if c = '+' then rest else c :: rest)

-- ================================================================ widths

def maxWord16 : Nat := Nat.pow 2 16 - 1

def maxWord32 : Nat := Nat.pow 2 32 - 1

def maxWord64 : Nat := Nat.pow 2 64 - 1

end PairingHarness.Decimal
