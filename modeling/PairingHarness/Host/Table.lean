/-
Processes.

A table lists the processes of a host in the order of their start; they are
numbered in this order and no number is given twice. A process that has
ended stays in the table until its parent has taken note of its ending; the
children of a process that ends are handed to the first process of the host,
which takes note of every ending at once. Whatever processes do is a
sequence of changes to the table, and only a process that runs can do
anything.
-/
import PairingHarness.Text.Utf8

namespace PairingHarness.Host

/-- The number of a process. -/
abbrev Pid := Nat

/-- The first process, to which orphans are handed. -/
def initPid : Pid := 1

/-- The process of the harness itself. -/
def harnessPid : Pid := 2

-- =============================================================== endings

/-- How a process ended. -/
inductive Ending where
  | exited (code : Nat)
  | signalled (signal : Nat)
  deriving DecidableEq, Repr

/-- The signal that nothing survives. -/
def killSignal : Nat := 9

/-- The names of the signals from one on. -/
def signalNames : List String :=
  ["SIGHUP", "SIGINT", "SIGQUIT", "SIGILL", "SIGTRAP", "SIGABRT", "SIGBUS",
    "SIGFPE", "SIGKILL",
    "SIGUSR1", "SIGSEGV", "SIGUSR2", "SIGPIPE", "SIGALRM", "SIGTERM",
    "SIGSTKFLT", "SIGCHLD",
    "SIGCONT", "SIGSTOP", "SIGTSTP", "SIGTTIN", "SIGTTOU", "SIGURG", "SIGXCPU",
    "SIGXFSZ",
    "SIGVTALRM", "SIGPROF", "SIGWINCH", "SIGIO", "SIGPWR", "SIGSYS"]

def signalName? (signal : Nat) : Option String :=
  if signal = 0 then none else signalNames[signal - 1]?

def Ending.message : Ending → String
  | exited code => "exit status: " ++ toString code
  | signalled signal =>
    match signalName? signal with
    | some name => "signal: " ++ toString signal ++ " (" ++ name ++ ")"
    | none => "signal: " ++ toString signal

-- ============================================================= processes

/-- A process, running until it has an ending. -/
structure Entry where
  pid : Pid
  parent : Pid
  /-- The name of its command, which may be any bytes. -/
  name : List UInt8
  ending : Option Ending
  deriving DecidableEq, Repr

def Entry.isRunning (e : Entry) : Bool :=
  e.ending.isNone

/-- The processes of a host and the number of the next one. -/
structure Table where
  entries : List Entry
  next : Pid
  deriving DecidableEq, Repr

namespace Table

/-- A host on which nothing was started. -/
def empty : Table :=
  ⟨[], harnessPid + 1⟩

def find? (t : Table) (pid : Pid) : Option Entry :=
  t.entries.find? fun e => e.pid == pid

/-- Whether this process is there and runs. -/
def isRunning (t : Table) (pid : Pid) : Bool :=
  (t.find? pid).any Entry.isRunning

def start (t : Table) (parent : Pid) (name : List UInt8) : Table :=
  ⟨t.entries ++ [⟨t.next, parent, name, none⟩], t.next + 1⟩

/-- Takes an ended process of this parent out of the table. -/
def forget (t : Table) (parent pid : Pid) : Table :=
  { t with entries :=
      t.entries.filter fun e =>
        !(e.pid == pid && e.parent == parent && !e.isRunning) }

/-- What becomes of an entry when a process ends: the process itself stays
for its parent unless that is the first process, its running children get a
new parent, its ended ones are gone. -/
def afterFinish (pid : Pid) (ending : Ending) (e : Entry) : Option Entry :=
  if e.pid = pid then
    if e.parent = initPid then none else some { e with ending := some ending }
  else if e.parent = pid then
    if e.isRunning then some { e with parent := initPid } else none
  else some e

/-- Ends a process, if it runs. -/
def finish (t : Table) (pid : Pid) (ending : Ending) : Table :=
  if t.isRunning pid then
    { t with entries := t.entries.filterMap (afterFinish pid ending) }
  else t

-- =============================================================== changes

/-- What processes can do to a table. -/
inductive Change where
  | fork (parent : Pid) (name : List UInt8)
  | become (pid : Pid) (name : List UInt8)
  | finish (pid : Pid) (ending : Ending)
  /-- A process takes note of the ending of a child. -/
  | wait (parent child : Pid)
  deriving DecidableEq, Repr

def apply (t : Table) : Change → Table
  | .fork parent name => if t.isRunning parent then t.start parent name else t
  | .become pid name =>
    { t with entries :=
        t.entries.map fun e =>
          if e.pid = pid && e.isRunning then { e with name := name } else e }
  | .finish pid ending => t.finish pid ending
  | .wait parent child =>
    if t.isRunning parent then t.forget parent child else t

def applyAll (t : Table) (changes : List Change) : Table :=
  changes.foldl apply t

end Table

end PairingHarness.Host
