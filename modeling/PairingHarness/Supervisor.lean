/-
Supervision of the service under test.

A supervisor owns at most one service. To start one it launches the command
with the variables of the settings, waits for a grace period, and takes the
service for started if its process still runs then; otherwise the start
fails and leaves the supervisor as it was. To stop it, the descendants of
the process that the host tells of are ended, nearest first, and then the
process itself, whose ending is taken note of if it comes in time.

Once the ending of the service was seen, its process is not looked at again
and is sent no signal.
-/
import PairingHarness.Host.Machine
import PairingHarness.Settings.LaunchEnv

namespace PairingHarness

open Host

/-- The owner of at most one launched service. -/
structure Supervisor where
  /-- The process of the service, if one was started and not stopped. -/
  process : Option Pid
  /-- How the service ended, where this was seen. -/
  noted : Option Ending
  startupGrace : Nat
  reapTimeout : Nat
  deriving DecidableEq, Repr

namespace Supervisor

def defaultStartupGrace : Nat := 250

def defaultReapTimeout : Nat := 2000

def idle (startupGrace reapTimeout : Nat) : Supervisor :=
  ⟨none, none, startupGrace, reapTimeout⟩

/-- What is told of a service that ended in its grace period. -/
def earlyEnding (command : String) (ending : Ending) : Failure :=
  .startup ("'" ++ command ++ "' exited during startup ("
    ++ ending.message ++ ")")

-- ================================================================= start

/-- Launches a command and waits for the grace period: the second half of
`start`. -/
def launch (s : Supervisor) (m : Machine) (l : Launch) :
    Except Failure Pid × Supervisor × Machine :=
  match m.launch l with
  | (.error reason, m) =>
    (.error (.startup (l.command ++ ": " ++ reason)), s, m)
  | (.ok pid, m) =>
    match (m.sleep s.startupGrace).look pid with
    | (.running, m) =>
      (.ok pid, { s with process := some pid, noted := none }, m)
    | (.ended ending, m) => (.error (earlyEnding l.command ending), s, m)
    | (.hidden reason, m) =>
      (.error (.startup reason), s, (m.kill pid).wait pid)

/-- Starts the service that the settings name (`start`). -/
def start (s : Supervisor) (m : Machine) (settings : Settings)
    (overrides : Overrides) :
    Except Failure Pid × Supervisor × Machine :=
  match s.process with
  | some pid => (.error (.alreadyRunning pid), s, m)
  | none =>
    if settings.launchesService then
      s.launch m ⟨settings.appPath, settings.launchEnvWith overrides⟩
    else (.error (.startup "no launch command configured"), s, m)

-- ================================================================== stop

/-- Ends the descendants of a process that the host tells of, nearest first:
the loop over `descendant_pids` in `stop`. -/
def killDescendants (m : Machine) (pid : Pid) : Machine :=
  (m.descendants pid).foldl Machine.kill m

/-- How long to sleep between two looks at a killed service, in
milliseconds. -/
def pollInterval : Nat := 20

/-- Looks at a killed child until it does not run any more, so many times
again at most: the loop over `try_wait` in `stop`. -/
def awaitEnding (m : Machine) (pid : Pid) : (looks : Nat) → Machine
  | 0 => (m.look pid).2
  | looks + 1 =>
    match m.look pid with
    | (.running, m) => awaitEnding (m.sleep pollInterval) pid looks
    | (_, m) => m

/-- Stops the service, if there is one (`stop`). -/
def stop (s : Supervisor) (m : Machine) : Supervisor × Machine :=
  match s.process with
  | none => (s, m)
  | some pid =>
    let stopped := { s with process := none, noted := none }
    let m := killDescendants m pid
    match s.noted with
    | some _ => (stopped, m)
    | none =>
      let looks := (s.reapTimeout + (pollInterval - 1)) / pollInterval
      (stopped, awaitEnding (m.kill pid) pid looks)

-- ================================================================= views

/-- Asks whether the service still runs (`is_running`). Where it has ended,
note is taken of it. -/
def poll (s : Supervisor) (m : Machine) : Bool × Supervisor × Machine :=
  match s.process, s.noted with
  | some pid, none =>
    match m.look pid with
    | (.running, m) => (true, s, m)
    | (.ended ending, m) => (false, { s with noted := some ending }, m)
    | (.hidden _, m) => (false, s, m)
  | _, _ => (false, s, m)

/-- Whether the service still runs, as far as can be told. -/
def isRunning (s : Supervisor) (m : Machine) : Bool :=
  (s.poll m).1

end Supervisor

end PairingHarness
