/-
Far ends.

A service is anything that answers what the harness does. It sees the acts
of the harness in their order, latest first, and reacts to each of them with
finitely many deliveries, on the connection concerned or on any other.
Nothing else is assumed: a service may forget, mix up, close and fall silent
as it likes, and may tell waits of different length apart. Statements about
every service are statements about every value of `Service`.

Waiting without a bound is an act as well. The deliveries that follow it are
all that comes until something ends the wait; when nothing that ends it is
among them, nothing ever will be.
-/
import PairingHarness.Network.Url

namespace PairingHarness.Network

-- ================================================================ frames

structure CloseFrame where
  code : Nat
  reason : String
  deriving DecidableEq, Repr

/-- A frame that breaks the rules of the transport. -/
inductive Violation where
  | reservedBits
  | maskedFrame
  | unknownOpcode (code : Nat)
  | strayContinuation
  /-- A new message of this kind before the last one was complete. -/
  | unfinishedMessage (kind : String)
  | longControl
  | fragmentedControl
  | shortClose
  | notText (fault : Text.Utf8.Fault)
  deriving DecidableEq, Repr

def Violation.message : Violation → String
  | reservedBits => "WebSocket protocol error: Reserved bits are non-zero"
  | maskedFrame =>
    "WebSocket protocol error: Received a masked frame from server"
  | unknownOpcode code =>
    "WebSocket protocol error: Encountered invalid opcode: " ++ toString code
  | strayContinuation =>
    "WebSocket protocol error: Continue frame but nothing to continue"
  | unfinishedMessage kind =>
    "WebSocket protocol error: While waiting for more fragments received: "
      ++ kind
  | longControl =>
    "WebSocket protocol error: Control frame too big (payload must be 125 bytes or less)"
  | fragmentedControl => "WebSocket protocol error: Fragmented control frame"
  | shortClose => "WebSocket protocol error: Invalid close sequence"
  | notText fault => "UTF-8 encoding error: " ++ fault.message

/-- What reading a session can meet and has to act on. -/
inductive Event where
  | text (payload : String)
  | binary (payload : List UInt8)
  | close (frame : Option CloseFrame)
  | violation (v : Violation)
  /-- The end of the stream, with no close frame before it. -/
  | ended
  /-- The connection is reset. -/
  | reset
  deriving DecidableEq, Repr

/-- What arrives on a session. -/
inductive Arrival where
  | ping
  | pong
  | event (e : Event)
  deriving DecidableEq, Repr

/-- A frame that the harness writes. Answers to pings are not counted among
them. -/
inductive Outgoing where
  | text (payload : String)
  | close (frame : Option CloseFrame)
  deriving DecidableEq, Repr

-- ============================================================== upgrades

/-- An answer to the upgrade request that is no valid one. -/
inductive UpgradeDefect where
  | incomplete
  | notHttp
  | noUpgradeHeader
  | noConnectionHeader
  /-- The accept key is missing or wrong. -/
  | keyMismatch
  deriving DecidableEq, Repr

def UpgradeDefect.message : UpgradeDefect → String
  | incomplete => "WebSocket protocol error: Handshake not finished"
  | notHttp => "WebSocket protocol error: httparse error: invalid HTTP version"
  | noUpgradeHeader =>
    "WebSocket protocol error: No \"Upgrade: websocket\" header"
  | noConnectionHeader =>
    "WebSocket protocol error: No \"Connection: upgrade\" header"
  | keyMismatch =>
    "WebSocket protocol error: Key mismatch in \"Sec-WebSocket-Accept\" header"

/-- How a service that is reached answers the request for a session. -/
inductive Answer where
  | accepted
  | status (code : Nat)
  | defective (defect : UpgradeDefect)
  /-- The connection is reset during the upgrade. -/
  | reset
  deriving DecidableEq, Repr

-- ================================================================== acts

/-- How long the harness waits for something. -/
inductive Wait where
  /-- A pause, in milliseconds, that nothing cuts short. -/
  | pause (ms : Nat)
  | arrival (conn : Nat)
  /-- The same, but for so many milliseconds at most. -/
  | arrivalWithin (conn ms : Nat)
  deriving DecidableEq, Repr

/-- What the harness does. Connections are numbered in the order in which
they were opened. -/
inductive Act where
  | opened (target : String)
  | wrote (conn : Nat) (frame : Outgoing)
  | waited (wait : Wait)
  deriving DecidableEq, Repr

/-- Something sent to the harness on a connection. -/
structure Delivery where
  conn : Nat
  arrival : Arrival
  deriving DecidableEq, Repr

/-- Why a frame could not be written. -/
inductive WriteFault where
  | gone (reason : String)
  | failed (reason : String)
  deriving DecidableEq, Repr

/-- A far end, by its reactions. The acts are given latest first. -/
structure Service where
  /-- How the dialling of an address is answered; nothing where nothing
  listens. -/
  answer : (past : List Act) → Url → Option Answer
  /-- Whether a frame fails to be written. -/
  refuse : (past : List Act) → (conn : Nat) → Outgoing → Option WriteFault
  /-- What is sent in reaction to the latest act. -/
  sends : (acts : List Act) → List Delivery

/-- The far end of a network on which nothing listens. -/
def Service.none : Service where
  answer _ _ := .none
  refuse _ _ _ := .none
  sends _ := []

end PairingHarness.Network
