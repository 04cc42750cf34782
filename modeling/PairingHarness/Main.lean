/-
The program.

It reads its arguments and its environment, draws random bytes, carries out
what it is asked for, and prints what that leaves. It has no sockets and
starts no processes: runs are made on a network on which nothing listens,
and on a host whose commands are played.
-/
import PairingHarness.CommandLine.Command
import PairingHarness.Rehearsal.Shell.Programs

namespace PairingHarness.Program

open Host Network

-- =========================================================== environment

/-- The texts between bytes of zero; what is no text is left out. -/
def splitTexts (bytes : List UInt8) : List String :=
  let pieces := bytes.splitBy fun a b => a ≠ 0 && b ≠ 0
  pieces.filterMap fun p => (Text.Utf8.decode (p.filter (· ≠ 0))).toOption

/-- The name and the value of a variable. -/
def splitVariable? (text : String) : Option (String × String) :=
  match text.toList.dropWhile (· ≠ '=') with
  | _ :: value =>
    some (String.ofList (text.toList.takeWhile (· ≠ '=')), String.ofList value)
  | [] => none

def environmentPath : String := "/proc/self/environ"

def readEnvironment : IO (List (String × String)) := do
  let bytes ← IO.FS.readBinFile environmentPath
  return (splitTexts bytes.toList).filterMap splitVariable?

-- ================================================================ chance

/-- How many random bytes are drawn for all scenarios together. -/
def poolSize : USize := 65536

/-- How far apart the bytes of two scenarios start. -/
def poolStep : Nat := 7919

/-- What the scenarios draw from a pool of bytes. -/
def chancesOf (pool : ByteArray) (index : Nat) : Chance :=
  Chance.ofSource fun n => pool.data.getD ((index * poolStep + n) % pool.size) 0

-- =================================================================== run

/-- Carries out what the arguments ask for: the status that the program ends
with. -/
def perform (arguments : List String) : IO UInt32 := do
  let vars ← readEnvironment
  let pool ← IO.getRandomBytes poolSize
  let world := World.start .none
  let machine := Machine.start Rehearsal.Shell.programs
  let (output, _) :=
    CommandLine.respond arguments vars (chancesOf pool) world machine
  match output with
  | none => return 1
  | some output =>
    (← IO.getStdout).putStr output.stdout
    (← IO.getStderr).putStr output.stderr
    return output.exit.toUInt32

end PairingHarness.Program

/-- Runs the program. -/
def main (arguments : List String) : IO UInt32 :=
  PairingHarness.Program.perform arguments
