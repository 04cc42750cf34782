/-
Sessions with the service.

Every way in which the far end can end a session, a close frame, the end of
the stream, a reset or an empty message, is one and the same signal with a
reason. Once an operation has given or caused that signal, the session is
closed for good: reads give the same reason again, writes fail with it,
closing does nothing, and the far end is not touched any more.

A read takes what arrived first, pings and pongs passed over; it waits only
when there is nothing else. Bytes that are no text and frames that break the
rules of the transport fail the read and leave the session open.

Some of what the transport does by itself is left out. It follows answers
that redirect, so an answer to the upgrade is here the one at which that
ends. It answers pings, and an answer that cannot be written fails the next
read there even where data is still to be read. After an opcode that it does
not know it stays at that frame and fails every read with it, where a
violation is met once here. And it reads on for as long as frames come,
where a service here sends finitely many in return for each act.
-/
import PairingHarness.Network.World

namespace PairingHarness.Network

/-- What a read gives. -/
inductive Received where
  | message (text : String)
  | closed (reason : String)
  deriving DecidableEq, Repr

namespace Session

-- =============================================================== reasons

def endedReason : String :=
  "WebSocket protocol error: Connection reset without closing handshake"

def resetReason : String :=
  "IO error: Connection reset by peer (os error 104)"

def afterClosingReason : String :=
  "WebSocket protocol error: Sending after closing is not allowed"

def emptyReason : String := "empty frame"

/-- The codes that a close frame may carry. -/
def isAllowedCode (code : Nat) : Bool :=
  (1000 ≤ code && code ≤ 1003) || (1007 ≤ code && code ≤ 1013)
    || (3000 ≤ code && code ≤ 4999)

/-- A close frame as it counts: one with a code that is not allowed is a
violation. -/
def acceptedClose (frame : CloseFrame) : CloseFrame :=
  if isAllowedCode frame.code then frame else ⟨1002, "Protocol violation"⟩

/-- What is told of a close frame. -/
def closeReason : Option CloseFrame → String
  | some f => "close frame " ++ toString f.code ++ " " ++ f.reason
  | none => "close frame"

/-- Closes the session for good (`mark_closed`). -/
def markClosed (conn : Nat) (reason : String) : Run String := fun w =>
  (.done reason, w.modify conn fun s => { s with closed := some reason })

-- =============================================================== writing

/-- Writes a frame, unless the transport is gone: a reset that arrived fails
the write. -/
def write (conn : Nat) (frame : Outgoing) : Run (Option WriteFault) := fun w =>
  if (w.session conn).hasReset then (.done (some (.gone resetReason)), w)
  else match w.service.refuse w.acts conn frame with
    | some fault => (.done (some fault), w)
    | none => (.done none, w.perform (.wrote conn frame))

/-- Sends a text message (`send`). -/
def send (conn : Nat) (text : String) : Run Unit := do
  let s := (← Run.get).session conn
  match s.closed with
  | some reason => Run.fail (.closed reason)
  | none =>
    if s.writable then
      match ← write conn (.text text) with
      | none => Run.pure ()
      | some (.gone reason) => Run.fail (.closed (← markClosed conn reason))
      | some (.failed reason) => Run.fail (.transport reason)
    else Run.fail (.closed (← markClosed conn afterClosingReason))

-- =============================================================== reading

/-- The first of what arrived that a read has to act on, and what arrived
after it. -/
def firstEvent : List Arrival → Option (Event × List Arrival)
  | [] => none
  | .ping :: rest => firstEvent rest
  | .pong :: rest => firstEvent rest
  | .event e :: rest => some (e, rest)

/-- Takes the first event out of the inbox; pings and pongs before it are
gone with it. A `read` of the socket in `poll`, which goes on with these. -/
def takeEvent (conn : Nat) : Run (Option Event) := fun w =>
  match firstEvent (w.session conn).inbox with
  | some (e, rest) =>
    (.done (some e), w.modify conn fun s => { s with inbox := rest })
  | none => (.done none, w.modify conn fun s => { s with inbox := [] })

/-- What a read makes of an event: what `poll` does with a message or an
error of the socket. The close frame of the far end is answered with the
same. -/
def meet (conn : Nat) : Event → Run Received
  | .text payload =>
    if payload = "" then return .closed (← markClosed conn emptyReason)
    else return .message payload
  | .binary payload =>
    if payload.isEmpty then return .closed (← markClosed conn emptyReason)
    else match Text.Utf8.decode payload with
      | .ok text => return .message text
      | .error fault =>
        Run.fail (.frame ("binary frame is not UTF-8: " ++ fault.message))
  | .close frame => do
    let frame := frame.map acceptedClose
    let _ ← write conn (.close frame)
    return .closed (← markClosed conn (closeReason frame))
  | .violation v => Run.fail (.transport v.message)
  | .ended => return .closed (← markClosed conn endedReason)
  | .reset => return .closed (← markClosed conn resetReason)

/-- Reads what comes next (`poll`), after one wait if nothing is there;
nothing where the wait was in vain. -/
def read (conn : Nat) (wait : Wait) : Run (Option Received) := do
  match ((← Run.get).session conn).closed with
  | some reason => return some (.closed reason)
  | none =>
    match ← takeEvent conn with
    | some e => return some (← meet conn e)
    | none =>
      Run.change fun w => w.perform (.waited wait)
      match ← takeEvent conn with
      | some e => return some (← meet conn e)
      | none => return none

/-- Waits for a message or the end of the session (`receive`). -/
def receive (conn : Nat) : Run Received := do
  match ← read conn (.arrival conn) with
  | some r => return r
  | none => Run.stall

/-- The shortest bound of a wait, in milliseconds. -/
def minWait : Nat := 1

/-- Waits for so many milliseconds at most; nothing where nothing came
(`receive_timeout`). -/
def receiveWithin (conn ms : Nat) : Run (Option Received) :=
  read conn (.arrivalWithin conn (max ms minWait))

-- =============================================================== closing

def normalCode : Nat := 1000

/-- Whether the session is over (`is_closed`). -/
def isClosed (conn : Nat) : Run Bool := do
  return ((← Run.get).session conn).isOver

/-- Takes a session out of use once its close frame is written or failed to
be: the end of `close`, which reads what is in flight and calls
`mark_closed`. -/
def shut (conn : Nat) (reason : Option String) : Run Unit :=
  Run.change fun w => w.modify conn fun s =>
    { s with writable := false, inbox := [], closed := reason }

/-- Closes the session with a reason, unless it is over; what is still in
flight is dropped (`close`). -/
def close (conn : Nat) (reason : String) : Run Unit := do
  if ← isClosed conn then return
  match ← write conn (.close (some ⟨normalCode, reason⟩)) with
  | none => shut conn (some ("closed by harness: " ++ reason))
  | some (.gone fault) => shut conn (some fault)
  | some (.failed fault) =>
    Run.change fun w => w.modify conn fun s => { s with writable := false }
    Run.fail (.transport fault)

-- =============================================================== opening

/-- Adds the session of a connection just opened, and tells the service. -/
def register (url target : String) (w : World) : World :=
  { w with sessions := w.sessions ++ [fresh url target] }.perform
    (.opened target)

/-- Opens a connection to an address: its number, once the upgrade is
through. The first half of `connect`. -/
def dial (url : String) : Run Nat := do
  let failed (reason : String) : Run Nat :=
    Run.fail (.transport ("connect to " ++ url ++ ": " ++ reason))
  match Url.parse url with
  | .error fault => failed fault.message
  | .ok address =>
    let w ← Run.get
    match w.service.answer w.acts address with
    | none => failed ("URL error: Unable to connect to " ++ address.shown)
    | some answer =>
      Run.change (register url address.target)
      match answer with
      | .accepted => return w.sessions.length
      | .status code =>
        -- a response that promises the upgrade and does not carry it out
        if code = 101 then failed UpgradeDefect.noUpgradeHeader.message
        else Run.fail (.refused code)
      | .defective defect => failed defect.message
      | .reset => Run.fail (.closed ("during upgrade: " ++ resetReason))

/-- Opens a session (`connect`): dials, and reads the handshake frame. -/
def connect (url : String) : Run (Nat × Handshake) := do
  let conn ← dial url
  match ← receive conn with
  | .closed reason => Run.fail (.closed reason)
  | .message text =>
    let handshake ← Run.ofExcept (Handshake.parse text)
    Run.change fun w =>
      w.modify conn fun s => { s with handshake := some handshake }
    return (conn, handshake)

end Session

end PairingHarness.Network
