/-
Numbers of sixty-four bits with a fraction, in exact arithmetic.

A number is a sign and a magnitude, the magnitude being its bit pattern as a
natural number: below the top twelve bits stands the fraction, above it the
exponent. In this order of patterns greater patterns are greater numbers,
and the pattern after a number's is its next neighbour. A quotient of
natural numbers is rounded to the nearest pattern, of two equally near ones
to the even one; products and quotients of numbers are rounded the same way.
-/

namespace PairingHarness

/-- A finite number, or a pattern at or beyond infinity where a computation
overflowed. -/
structure Double where
  /-- Whether the sign is set; zero has a sign as well. -/
  negative : Bool
  /-- The bits below the sign. -/
  magnitude : Nat
  deriving DecidableEq, Repr

namespace Double

-- ============================================================== patterns

/-- How many patterns share an exponent. -/
def binade : Nat := Nat.pow 2 52

def infinity : Nat := 2047 * binade

/-- How far the exponent shifts the significand. -/
def shift (pattern : Nat) : Nat :=
  pattern / binade - 1

/-- The significand of a pattern: its number is this times two to the
`shift`, in units of the least positive number. -/
def significand (pattern : Nat) : Nat :=
  pattern - shift pattern * binade

/-- The number of a pattern in units of the least positive number. -/
def units (pattern : Nat) : Nat :=
  significand pattern * Nat.pow 2 (shift pattern)

/-- How many of those units make one. -/
def one : Nat := Nat.pow 2 1074

def bits (d : Double) : Nat :=
  (if d.negative then Nat.pow 2 63 else 0) + d.magnitude

-- ============================================================== rounding

/-- The natural number nearest to a quotient, the even one of two. -/
def roundDiv (num den : Nat) : Nat :=
  let q := num / den
  let r := num % den
  if den < 2 * r ∨ (den = 2 * r ∧ q % 2 = 1) then q + 1 else q

/-- The pattern nearest to a quotient of natural numbers. -/
def nearest (num den : Nat) : Nat :=
  let scaled := num * one
  let k := Nat.log2 (scaled / den) - 52
  k * binade + roundDiv scaled (den * Nat.pow 2 k)

/-- The pattern nearest to the product of two patterns' numbers. -/
def mul (a b : Nat) : Nat :=
  nearest (units a * units b) (one * one)

/-- The pattern nearest to the quotient of two patterns' numbers. -/
def div (a b : Nat) : Nat :=
  nearest (units a) (units b)

/-- The pattern nearest to a power of ten. -/
def tenTo (k : Nat) : Nat :=
  nearest (Nat.pow 10 k) 1

-- ===================================================== decimal to binary

/-- The greatest power of ten that is finite. -/
def maxTen : Nat := 308

/-- A pattern times ten to an exponent, in steps of at most the greatest
power of ten, each rounded; nothing where the product is beyond the finite
numbers. -/
def scale : (fuel : Nat) → (pattern : Nat) → (exponent : Int) → Option Nat
  | 0, _, _ => some 0
  | fuel + 1, pattern, exponent =>
    if exponent.natAbs ≤ maxTen then
      if exponent < 0 then some (div pattern (tenTo exponent.natAbs))
      else
        let p := mul pattern (tenTo exponent.natAbs)
        if p < infinity then some p else none
    else if pattern = 0 then some 0
    else if 0 < exponent then none
    else scale fuel (div pattern (tenTo maxTen)) (exponent + maxTen)

/-- The pattern of a whole number times ten to an exponent. -/
def ofParts (whole : Nat) (exponent : Int) : Option Nat :=
  scale (exponent.natAbs / maxTen + 1) (nearest whole 1) exponent

end Double

end PairingHarness
