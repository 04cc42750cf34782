/-
Everything that can go wrong in a conformance run.

A failure carries what its message tells. A failed scenario wraps the
failure that ended it: its message starts with the scenario's name and goes
on with the whole message of the cause, and the advice it gives is the
cause's advice, at any depth of wrapping. Only a close from the far end
counts as a close signal; a wrapped close does not.
-/
import PairingHarness.Text.Quoted

namespace PairingHarness

/-- A failure, by its cause. -/
inductive Failure where
  /-- The service could not be launched, or ended while starting. -/
  | startup (reason : String)
  | alreadyRunning (pid : Nat)
  | handshake (reason : String)
  /-- The upgrade was answered with another status. -/
  | refused (status : Nat)
  | closed (reason : String)
  | transport (reason : String)
  | frame (reason : String)
  | assertion (reason : String)
  /-- An option holds a value that its reader cannot use. -/
  | invalidOption (name value reason : String)
  | unknownOption (name : String)
  | unknownScenario (name : String)
  | scenarioFailed (scenario : String) (cause : Failure)
  | io (reason : String)
  deriving DecidableEq, Repr

namespace Failure

-- ============================================================== messages

def message : Failure → String
  | startup reason => "failed to start service: " ++ reason
  | alreadyRunning pid =>
    "service already running (PID: " ++ toString pid ++ ")"
  | handshake reason => "handshake failed: " ++ reason
  | refused status => "connection refused by service: HTTP " ++ toString status
  | closed reason => "connection closed: " ++ reason
  | transport reason => "transport error: " ++ reason
  | frame reason => "invalid relay frame: " ++ reason
  | assertion reason => "assertion failed: " ++ reason
  | invalidOption name value reason =>
    "invalid value for option '" ++ name ++ "': " ++ Text.quoted value
      ++ " (" ++ reason ++ ")"
  | unknownOption name => "unknown option: " ++ name
  | unknownScenario name => "unknown scenario: " ++ name
  | scenarioFailed scenario cause =>
    "scenario '" ++ scenario ++ "' failed: " ++ cause.message
  | io reason => "I/O error: " ++ reason

/-- What the user may do about it, where something can be said. -/
def hint : Failure → Option String
  | startup _ =>
    some ("Check TEST_APP_PATH points at a built service binary, or set it empty to test an "
      ++ "already running service.")
  | alreadyRunning _ =>
    some "Stop the supervised service before starting another."
  | refused _ | transport _ =>
    some "Is the service listening on the configured TEST_HOST and TEST_PORT?"
  | handshake _ =>
    some "The service must send a JSON frame with a 'link' field right after connecting."
  | invalidOption _ _ _ | unknownOption _ =>
    some "Run 'pairtest config' to inspect the resolved options."
  | unknownScenario _ => some "Run 'pairtest list' to see available scenarios."
  | scenarioFailed _ cause => cause.hint
  | closed _ | frame _ | assertion _ | io _ => none

/-- Whether the far end closed the session. -/
def isCloseSignal : Failure → Bool
  | closed _ => true
  | _ => false

-- ================================================================ causes

/-- What can stand behind a failure: a failure that it wraps, or an error of
the system, which has nothing behind it. -/
inductive Cause where
  | failure (failure : Failure)
  | system (reason : String)
  deriving DecidableEq, Repr

/-- What stands right behind a failure. -/
def source? : Failure → Option Cause
  | scenarioFailed _ cause => some (.failure cause)
  | io reason => some (.system reason)
  | _ => none

namespace Cause

def message : Cause → String
  | failure f => f.message
  | system reason => reason

/-- What stands right behind a cause. -/
def source? : Cause → Option Cause
  | failure f => f.source?
  | system _ => none

end Cause

/-- The messages of the causes, outermost first. -/
def causes : Failure → List String
  | scenarioFailed _ cause => cause.message :: cause.causes
  | io reason => [reason]
  | _ => []

end Failure

end PairingHarness
