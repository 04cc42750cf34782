/-
A host whose commands are played.

The scene after any history of the harness's deeds follows from the deeds
alone, so it is played again from the start for each of them; what the last
one changed is what the host is told.
-/
import PairingHarness.Rehearsal.Shell.Play

namespace PairingHarness.Rehearsal.Shell

open Host

-- ================================================================ launch

def searchPath : String :=
  "/usr/local/sbin:/usr/local/bin:/usr/sbin:/usr/bin:/sbin:/bin"

/-- The variables that every launched command gets. -/
def basicVariables : List (String × String) :=
  [("PATH", searchPath), ("PWD", "/")]

/-- How many bytes one text given to a command may have, its end mark
included. -/
def maxTextSize : Nat := 131072

def handedOver (l : Launch) : List String :=
  l.command :: l.env.entries.map fun e => e.1 ++ "=" ++ e.2

/-- Why a command cannot be launched, if it cannot. -/
def refusal? (l : Launch) : Option String :=
  if (handedOver l).any fun t => t.toList.contains '\x00' then
    some "nul byte found in provided data"
  else if (handedOver l).any fun t => maxTextSize ≤ t.utf8ByteSize then
    some "Argument list too long (os error 7)"
  else none

namespace Scene

/-- The shell of a launch, about to read its line. -/
def shellOf (pid : Pid) (l : Launch) : Actor where
  pid := pid
  shellPid := pid
  bindings := (Dictionary.ofPairs basicVariables).insertAll l.env.entries
  exported := basicVariables.map Prod.fst ++ l.env.entries.map Prod.fst
  streams := ⟨.nowhere, .nowhere, .nowhere⟩
  ignored := []
  status := 0
  beside := none
  tasks := [.become [callName, "-c", l.command]]
  activity := .ready

/-- How often the clock is stopped in one sleep of the harness at most. -/
def wakingsAtOnce : Nat := 2000

-- ================================================================= deeds

/-- What a deed of the harness changes. -/
def react (s : Scene) (d : Deed) : Scene :=
  let s := { s with changes := [] }
  match d with
  | .launched pid l =>
    { s with
      table := s.table.start harnessPid Machine.shellName
      actors := s.actors ++ [shellOf pid l] }.settle stepsAtOnce
  | .slept ms => s.advance (s.clock + ms) wakingsAtOnce
  | .killed pid =>
    { s with table := s.table.finish pid (.signalled killSignal) }.remove pid
      |>.settle stepsAtOnce
  | .reaped pid =>
    { s with
      table := (s.table.finish pid (.signalled killSignal)).forget
        harnessPid pid }.remove pid

/-- The scene after deeds, given latest first. -/
def after : List Deed → Scene
  | [] => start
  | d :: past => (after past).react d

end Scene

/-- Commands as they are played. -/
def programs : Programs where
  refuse _ l := refusal? l
  changes deeds := (Scene.after deeds).changes.reverse

-- ================================================================= files

/-- What commands have written to a file, if it is there. -/
def written? (m : Machine) (path : String) : Option String :=
  (Scene.after m.deeds).files.get? path

/-- How long to sleep between two looks at a file, in milliseconds. -/
def lookInterval : Nat := 20

/-- Waits until something is written to a file, so many looks at most: what
is there then, and the host at that time. -/
def awaitWritten (path : String) :
    (looks : Nat) → Machine → Option String × Machine
  | 0, m => (written? m path, m)
  | looks + 1, m =>
    match written? m path with
    | none | some "" => awaitWritten path looks (m.sleep lookInterval)
    | some text => (some text, m)

end PairingHarness.Rehearsal.Shell
