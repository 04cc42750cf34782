/-
The shortest decimal of a binary number.

A decimal reads back as a number when it lies in the interval of reals that
round to the number; the ends belong to the interval when the number's
pattern is even. For one digit, two digits and so on, the two neighbours of
the number on that decimal grid are tested; the first grid with a neighbour
inside gives the digits, and of two neighbours inside, the nearer. If any
point of a grid lies in the interval, so does one of these two, so no
shorter decimal reads back.
-/
import PairingHarness.Double

namespace PairingHarness.Decimal

-- ================================================================ digits

/-- A decimal: a whole number times ten to an exponent. -/
structure Scaled where
  whole : Nat
  exponent : Int
  deriving DecidableEq, Repr

/-- The interval of a pattern, in quarters of the unit at its significand:
the significand, the lower and the upper end. Below a power of two the
neighbour is half as far. -/
def interval (pattern : Nat) : Nat × Nat × Nat :=
  let m := Double.significand pattern
  let low := if m = Double.binade ∧ 0 < Double.shift pattern then 4 * m - 1
    else 4 * m - 2
  (4 * m, low, 4 * m + 2)

/-- The decimal exponent of the leading digit of a number above zero. -/
def leadingExponent (pattern : Nat) : Int :=
  let digits := (Nat.toDigits 10
    (Double.units pattern * Nat.pow 10 400 / Double.one)).length
  (digits : Int) - 401

/-- The decimal nearest to a number on the grid of an exponent, if one of
the number's two neighbours there lies in the interval. -/
def onGrid (pattern : Nat) (exponent : Int) : Option Nat :=
  let (mid, low, high) := interval pattern
  let even := Double.significand pattern % 2 = 0
  -- one grid step is `step / unit` quarters
  let unit := Nat.pow 2 (Double.shift pattern) * Nat.pow 10 (-exponent).toNat
  let step := 4 * Double.one * Nat.pow 10 exponent.toNat
  let inside (n : Nat) : Bool :=
    if even then low * unit ≤ n * step && n * step ≤ high * unit
    else low * unit < n * step && n * step < high * unit
  let below := mid * unit / step
  let above := below + 1
  match inside below, inside above with
  | false, false => none
  | true, false => some below
  | false, true => some above
  | true, true =>
    let down := mid * unit - below * step
    let up := above * step - mid * unit
    if down < up ∨ (down = up ∧ below % 2 = 0) then some below else some above

/-- Tries grids of more and more digits. -/
def shortestFrom (pattern : Nat) : (tries : Nat) → (exponent : Int) → Scaled
  | 0, exponent => ⟨0, exponent⟩
  | tries + 1, exponent =>
    match onGrid pattern exponent with
    | some n => ⟨n, exponent⟩
    | none => shortestFrom pattern tries (exponent - 1)

/-- The shortest decimal that reads back as the pattern's number. -/
def shortest (pattern : Nat) : Scaled :=
  if pattern = 0 then ⟨0, 0⟩
  else shortestFrom pattern 17 (leadingExponent pattern)

-- ================================================================== text

/-- Digits without the zeros at their end, and how many zeros there were. -/
def stripZeros (digits : List Char) : List Char × Nat :=
  let kept := (digits.reverse.dropWhile (· = '0')).reverse
  (kept, digits.length - kept.length)

/-- The least exponent of the leading digit that is written out in places. -/
def placesFrom : Int := -5

/-- The greatest exponent of the leading digit that is written out in
places. -/
def placesTo : Int := 15

/-- The text of a decimal above zero: in places with a point and at least
one digit after it, or with the exponent and its sign after the digits. -/
def textOf (d : Scaled) : List Char :=
  let (ds, zeros) := stripZeros (Nat.toDigits 10 d.whole)
  let last := d.exponent + zeros
  let lead := last + ds.length - 1
  if placesFrom ≤ lead ∧ lead ≤ placesTo then
    if 0 ≤ last then ds ++ List.replicate last.toNat '0' ++ ['.', '0']
    else if 0 ≤ lead then
      ds.take (lead.toNat + 1) ++ '.' :: ds.drop (lead.toNat + 1)
    else '0' :: '.' :: List.replicate (-lead - 1).toNat '0' ++ ds
  else
    ds.take 1 ++ (if ds.length = 1 then [] else '.' :: ds.drop 1)
      ++ 'e' :: (if lead < 0 then '-' else '+') :: Nat.toDigits 10 lead.natAbs

def doubleText (d : Double) : String :=
  let body := if d.magnitude = 0 then ['0', '.', '0']
    else textOf (shortest d.magnitude)
  String.ofList (if d.negative then '-' :: body else body)

end PairingHarness.Decimal
