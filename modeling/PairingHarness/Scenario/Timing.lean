/-
Pauses and bounds of the scenarios.
-/

namespace PairingHarness

/-- The waits that a run imposes on itself, in milliseconds, and how long a
series may get. -/
structure Timing where
  settle : Nat
  periodInterval : Nat
  periodMaxIterations : Nat
  /-- How long a close that must be immediate may take. -/
  closeGrace : Nat
  deriving DecidableEq, Repr

namespace Timing

def defaults : Timing where
  settle := 500
  periodInterval := 2000
  periodMaxIterations := 15
  closeGrace := 2000

end Timing

end PairingHarness
