/-
The harness and a far end, together.

A world holds the service, every act so far, and one session for each
connection that was opened. An act is recorded first and then answered: what
the service sends goes to the end of the inboxes it names; a delivery on a
connection that does not exist is lost. A run is a computation that changes
the world and ends in a value, in a failure, or not at all because the
harness waits for a service that has fallen silent.
-/
import PairingHarness.Failure
import PairingHarness.Frame.Handshake
import PairingHarness.Network.Service

namespace PairingHarness.Network

-- ============================================================== sessions

/-- The harness's end of one connection. -/
structure Session where
  url : String
  target : String
  inbox : List Arrival
  writable : Bool
  /-- How the session ended, once it has. -/
  closed : Option String
  /-- What the service said first, once it has. -/
  handshake : Option Handshake
  deriving DecidableEq, Repr

/-- A session in which nothing happened yet. -/
def Session.fresh (url target : String) : Session where
  url := url
  target := target
  inbox := []
  writable := true
  closed := none
  handshake := none

/-- What stands for a session that was never opened. -/
def Session.absent : Session where
  url := ""
  target := ""
  inbox := []
  writable := false
  closed := some "never opened"
  handshake := none

/-- Whether the session is over for the harness. -/
def Session.isOver (s : Session) : Bool :=
  s.closed.isSome || !s.writable

/-- Whether a reset has arrived and was not yet read. -/
def Session.hasReset (s : Session) : Bool :=
  s.inbox.contains (.event .reset)

-- ================================================================ worlds

/-- The state of harness and far end. -/
structure World where
  service : Service
  /-- The acts of the harness, latest first. -/
  acts : List Act
  /-- The sessions, in the order in which their connections were opened. -/
  sessions : List Session

namespace World

def start (service : Service) : World :=
  ⟨service, [], []⟩

def session (w : World) (conn : Nat) : Session :=
  w.sessions.getD conn .absent

def modify (w : World) (conn : Nat) (f : Session → Session) : World :=
  { w with sessions := w.sessions.modify conn f }

/-- Puts something that arrived at the end of an inbox. -/
def deliver (w : World) (d : Delivery) : World :=
  w.modify d.conn fun s => { s with inbox := s.inbox ++ [d.arrival] }

/-- Records an act and lets the service react. -/
def perform (w : World) (act : Act) : World :=
  let acts := act :: w.acts
  (w.service.sends acts).foldl deliver { w with acts := acts }

/-- The milliseconds spent in pauses so far. -/
def paused (w : World) : Nat :=
  w.acts.foldl (fun total act => match act with
    | .waited (.pause ms) => total + ms
    | _ => total) 0

end World

-- ================================================================== runs

/-- How a run ends. -/
inductive Outcome (α : Type) where
  | done (value : α)
  | failed (failure : Failure)
  /-- The harness waits without a bound and nothing will come. -/
  | stalled
  deriving Repr

/-- What a run ends in, its value changed. -/
def Outcome.map {α β : Type} (f : α → β) : Outcome α → Outcome β
  | done a => .done (f a)
  | failed e => .failed e
  | stalled => .stalled

/-- A computation of the harness. -/
def Run (α : Type) : Type :=
  World → Outcome α × World

namespace Run

def pure {α : Type} (a : α) : Run α :=
  fun w => (.done a, w)

/-- Goes on with the value of a run. -/
def bind {α β : Type} (r : Run α) (f : α → Run β) : Run β := fun w =>
  match r w with
  | (.done a, w) => f a w
  | (.failed e, w) => (.failed e, w)
  | (.stalled, w) => (.stalled, w)

instance : Monad Run where
  pure := Run.pure
  bind := Run.bind

def fail {α : Type} (e : Failure) : Run α :=
  fun w => (.failed e, w)

/-- Never ends. -/
def stall {α : Type} : Run α :=
  fun w => (.stalled, w)

/-- Ends in what the run ends in, a failure included. -/
def attempt {α : Type} (r : Run α) : Run (Except Failure α) := fun w =>
  match r w with
  | (.done a, w) => (.done (.ok a), w)
  | (.failed e, w) => (.done (.error e), w)
  | (.stalled, w) => (.stalled, w)

/-- Fails with another failure where the run fails. -/
def mapFailure {α : Type} (f : Failure → Failure) (r : Run α) : Run α :=
    fun w =>
  match r w with
  | (.failed e, w) => (.failed (f e), w)
  | other => other

/-- Ends in what a computation outside the world ends in. -/
def ofExcept {α : Type} : Except Failure α → Run α
  | .ok a => Run.pure a
  | .error e => fail e

def get : Run World :=
  fun w => (.done w, w)

def change (f : World → World) : Run Unit :=
  fun w => (.done (), f w)

def pause (ms : Nat) : Run Unit :=
  change fun w => w.perform (.waited (.pause ms))

end Run

end PairingHarness.Network
