/-
A host and the programs that run on it.

The harness launches commands, sleeps and kills; what the processes do
meanwhile is up to the programs, which see everything the harness did in its
order, latest first, and answer with changes of the process table. Nothing
else is assumed of them, so statements about every program are statements
about every value of `Programs`.
-/
import PairingHarness.Dictionary
import PairingHarness.Host.Descendants
import PairingHarness.Host.Stat

namespace PairingHarness.Host

-- ============================================================== programs

/-- A command line for the shell, with the variables it gets. -/
structure Launch where
  command : String
  env : Dictionary

/-- What the harness does on a host: it calls `spawn`, `sleep`, `kill`, and
a `try_wait` or `wait` that takes the status of a child. -/
inductive Deed where
  | launched (pid : Pid) (launch : Launch)
  | slept (ms : Nat)
  | killed (pid : Pid)
  /-- Takes note of the ending of a child. -/
  | reaped (pid : Pid)

/-- The milliseconds that a deed sleeps. -/
def Deed.duration : Deed → Nat
  | slept ms => ms
  | _ => 0

/-- What commands do. The deeds are given latest first. -/
structure Programs where
  /-- Why a command cannot be launched, if it cannot. -/
  refuse : (past : List Deed) → Launch → Option String
  /-- Why the host cannot tell how a child is doing, if it cannot: the error
  of `try_wait`. -/
  withhold : (past : List Deed) → Pid → Option String := fun _ _ => none
  /-- Whether a process that is killed goes on for a while. Its end is one
  of the changes then. -/
  lingers : (past : List Deed) → Pid → Bool := fun _ _ => false
  /-- What happens to the processes until the latest deed is over. -/
  changes : (deeds : List Deed) → List Table.Change

structure Machine where
  programs : Programs
  /-- What the harness did, latest first. -/
  deeds : List Deed
  table : Table

namespace Machine

/-- The name of the shell. -/
def shellName : List UInt8 := Stat.ascii "sh"

/-- A host on which nothing was launched. -/
def start (programs : Programs) : Machine :=
  ⟨programs, [], .empty⟩

-- ================================================================= deeds

/-- The processes once a deed has had its own effect. Note is taken of a
child that was killed before (`wait`), so its end is there at the latest
then. -/
def struck (m : Machine) : Deed → Table
  | .launched _ _ => m.table.start harnessPid shellName
  | .slept _ => m.table
  | .killed pid =>
    if m.programs.lingers m.deeds pid then m.table
    else m.table.finish pid (.signalled killSignal)
  | .reaped pid =>
    (m.table.finish pid (.signalled killSignal)).forget harnessPid pid

/-- Does a deed and lets the programs go on. -/
def perform (m : Machine) (deed : Deed) : Machine :=
  let deeds := deed :: m.deeds
  { m with
    deeds := deeds
    table := (m.struck deed).applyAll (m.programs.changes deeds) }

/-- Launches a command as a child of the harness (`spawn`): its number, or
why there is none. -/
def launch (m : Machine) (l : Launch) : Except String Pid × Machine :=
  match m.programs.refuse m.deeds l with
  | some reason => (.error reason, m)
  | none => (.ok m.table.next, m.perform (.launched m.table.next l))

def sleep (m : Machine) (ms : Nat) : Machine :=
  m.perform (.slept ms)

/-- Sends a process the signal that nothing survives (`kill_pid`). -/
def kill (m : Machine) (pid : Pid) : Machine :=
  m.perform (.killed pid)

/-- Takes note of the ending of a child, as `wait` does. -/
def reap (m : Machine) (pid : Pid) : Machine :=
  m.perform (.reaped pid)

-- ================================================================= views

/-- How a child ended, if it has and no note was taken of it. -/
def ending? (m : Machine) (pid : Pid) : Option Ending :=
  (m.table.find? pid).bind Entry.ending

/-- What a look at a child shows, which is what `try_wait` returns: nothing
yet, a status, or an error. -/
inductive Sight where
  | running
  | ended (ending : Ending)
  | hidden (reason : String)
  deriving DecidableEq, Repr

/-- Looks how a child is doing (`try_wait`). Where it has ended, note is
taken of it. -/
def look (m : Machine) (pid : Pid) : Sight × Machine :=
  match m.programs.withhold m.deeds pid with
  | some reason => (.hidden reason, m)
  | none =>
    match m.ending? pid with
    | none => (.running, m)
    | some ending => (.ended ending, m.reap pid)

/-- Waits until a killed child has ended, and takes note of that, where the
host can tell (`wait`). -/
def wait (m : Machine) (pid : Pid) : Machine :=
  match m.programs.withhold m.deeds pid with
  | some _ => m
  | none => m.reap pid

/-- The milliseconds that the harness slept so far. -/
def slept (m : Machine) : Nat :=
  m.deeds.foldr (fun deed total => deed.duration + total) 0

/-- The processes that the host tells of, each with its parent. -/
def links (m : Machine) : List Link :=
  m.table.entries.filterMap fun e =>
    (Stat.read (Stat.ofEntry e)).map fun r => ⟨e.pid, r.2⟩

/-- The descendants of a process that the host tells of (`descendant_pids`).
-/
def descendants (m : Machine) (root : Pid) : List Pid :=
  Host.descendants m.links root

/-- Whether the host tells of a process that it is alive
(`process_is_running`). -/
def isAlive (m : Machine) (pid : Pid) : Bool :=
  (m.table.find? pid).any fun e => Stat.tellsAlive (Stat.ofEntry e)

end Machine

end PairingHarness.Host
