/-
The descendants of a process.

From pairs of a process and its parent, in any order and with any cycles,
the children of the root are found first, then their children, and so on. A
process is noted the first time it is met and never again, so the walk ends
after at most one step for each pair and one for the root.
-/
import PairingHarness.Host.Table

namespace PairingHarness.Host

structure Link where
  pid : Pid
  parent : Pid
  deriving DecidableEq, Repr

namespace Descendants

/-- The children of a process, in the order of the pairs. -/
def children (links : List Link) (pid : Pid) : List Pid :=
  (links.filter fun l => l.parent == pid).map Link.pid

/-- Notes a process in both lists unless it is known: those found, and those
whose children are still to be looked at. -/
def note (state : List Pid × List Pid) (pid : Pid) : List Pid × List Pid :=
  if state.1.contains pid then state else (state.1 ++ [pid], state.2 ++ [pid])

/-- Looks at the children of every process in the queue: the loop of
`descendant_pids`. -/
def walk (links : List Link) :
    (steps : Nat) → (found queue : List Pid) → List Pid
  | 0, found, _ => found
  | _ + 1, found, [] => found
  | steps + 1, found, pid :: queue =>
    let (found, queue) := (children links pid).foldl note (found, queue)
    walk links steps found queue

end Descendants

/-- All descendants of a process, nearer ones first (`descendant_pids`). -/
def descendants (links : List Link) (root : Pid) : List Pid :=
  Descendants.walk links (links.length + 1) [] [root]

end PairingHarness.Host
