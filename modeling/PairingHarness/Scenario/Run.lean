/-
The scenarios.

Each opens its own connections, plays an exchange and compares what it sees
with the contract of the service: an initiator gets a link, a peer joins
through it, and what the initiator sends reaches the peer in a relay frame.
What a scenario finds wrong is an assertion; any other failure is passed on.
A scenario that fails is named by the failure of its run.

Limits are read before anything is dialled, so a limit that is no number
opens no connection. A scenario that passes hangs up on every session that
is still open.
-/
import PairingHarness.Decimal.Tenths
import PairingHarness.Frame.Relay
import PairingHarness.Network.Session
import PairingHarness.Payload
import PairingHarness.Scenario.Chance
import PairingHarness.Scenario.Kind
import PairingHarness.Scenario.Timing
import PairingHarness.Settings.Limits

namespace PairingHarness

open Network

-- ============================================================ conditions

/-- What a scenario is run with. -/
structure Conditions where
  settings : Settings
  timing : Timing
  chance : Chance

namespace Scenario

-- ================================================================ checks

/-- Fails with an assertion unless the condition holds. -/
def ensure (condition : Bool) (reason : String) : Run Unit :=
  if condition then Run.pure () else Run.fail (.assertion reason)

def previewLength : Nat := 40

def preview (text : String) : String :=
  Text.quoted (String.ofList (text.toList.take previewLength))

/-- Decodes a relay frame; a fault in it is an assertion about what was
awaited. -/
def decodeRelay (text what : String) : Run RelayFrame :=
  match RelayFrame.parse text with
  | .ok frame => Run.pure frame
  | .error e => Run.fail (.assertion (what ++ ": " ++ e.message))

/-- Waits for a relay frame. -/
def expectRelay (conn : Nat) (what : String) : Run RelayFrame := do
  match ← Session.receive conn with
  | .message text => decodeRelay text what
  | .closed reason =>
    Run.fail (.assertion
      (what ++ ": receiver closed before the relay arrived (" ++ reason ++ ")"))

/-- Fails unless a frame carries exactly the message that was sent. -/
def expectMessage (frame : RelayFrame) (expected context : String) : Run Unit :=
  ensure (frame.message == expected)
    (context ++ ": expected " ++ toString expected.utf8ByteSize ++ " bytes "
      ++ preview expected ++ ", got "
      ++ toString frame.message.utf8ByteSize ++ " bytes "
      ++ preview frame.message)

/-- Fails unless a session is over. -/
def expectClosed (conn : Nat) (reason : String) : Run Unit := do
  ensure (← Session.isClosed conn) reason

/-- Lets a close pass: the other side's session is what gets checked. -/
def tolerateClose (r : Run Unit) : Run Unit := do
  match ← r.attempt with
  | .ok () => return
  | .error e => if e.isCloseSignal then return else Run.fail e

def hangUpReason : String := "Goodbye"

/-- Closes sessions; a close that fails is passed over. -/
def hangUp : List Nat → Run Unit
  | [] => Run.pure ()
  | conn :: rest => do
    let _ ← (Session.close conn hangUpReason).attempt
    hangUp rest

-- =============================================================== pairing

def initiatePath : String := "/v1/ws/"

/-- Opens an initiator. -/
def initiate (s : Settings) : Run (Nat × Handshake) :=
  Session.connect (s.baseUrl ++ initiatePath)

/-- Opens an initiator and joins a peer to it through its link (`pair`). -/
def pair (s : Settings) : Run (Nat × Nat) := do
  let (initiator, handshake) ← initiate s
  let (peer, _) ← Session.connect (s.baseUrl ++ handshake.link)
  return (initiator, peer)

-- ============================================================= scenarios

/-- A message reaches the peer. -/
def simpleRelay (c : Conditions) : Run Unit := do
  let (initiator, peer) ← pair c.settings
  let message := "Test message"
  Session.send initiator message
  let frame ← expectRelay peer "simple relay"
  expectMessage frame message "relayed message didn't match"
  hangUp [initiator, peer]

/-- How many random bytes the large payload of an exchange has. -/
def fullExchangeBytes : Nat := 1024

/-- A short and a large message reach the peer, and a sender is marked as
remote. -/
def fullExchange (c : Conditions) : Run Unit := do
  let (initiator, peer) ← pair c.settings
  let intro := "intro message"
  Session.send initiator intro
  let introFrame ← expectRelay peer "intro"
  expectMessage introFrame intro "Intro didn't match"
  let message := Payload.printable (c.chance.bytes fullExchangeBytes)
  Session.send initiator message
  let frame ← expectRelay peer "payload"
  expectMessage frame message "Message didn't match"
  ensure (introFrame.hasRemoteSender || frame.hasRemoteSender)
    "No remote in sender data"
  hangUp [initiator, peer]

/-- A payload as long as the ceiling closes the peer. -/
def maxData (c : Conditions) : Run Unit := do
  let limit ← Run.ofExcept c.settings.dataLimit
  let (initiator, peer) ← pair c.settings
  tolerateClose
    (Session.send initiator (Payload.printable (c.chance.bytes limit)))
  Run.pause c.timing.settle
  match ← Session.receiveWithin peer c.timing.closeGrace with
  | some (.message text) =>
    Run.fail (.assertion
      ("Receiver got a " ++ toString text.utf8ByteSize
        ++ " byte frame although max_data is "
        ++ toString limit))
  | _ => Run.pure ()
  expectClosed peer "Receiver did not close"
  hangUp [initiator]

/-- Sends the message of a series with this number. A close is let pass only
where the limit is reached. -/
def sendNumbered (initiator index limit : Nat) : Run Unit := do
  match ← (Session.send initiator (Payload.numbered index)).attempt with
  | .ok () => return
  | .error e =>
    if e.isCloseSignal then
      ensure (index == limit)
        ("Sender closed after " ++ toString index ++ " of " ++ toString limit
          ++ " exchanges")
    else Run.fail e

/-- One message of a series: whether it found the channel closed, which it
must where the limit is reached and nowhere else. -/
def exchangeNumbered (initiator peer limit index : Nat) : Run Bool := do
  sendNumbered initiator index limit
  match ← Session.receive peer with
  | .closed reason =>
    ensure (index == limit)
      ("Invalid message count " ++ toString index ++ ": closed before "
        ++ toString limit
        ++ " exchanges (" ++ reason ++ ")")
    return true
  | .message text =>
    ensure (index < limit)
      ("Message #" ++ toString index
        ++ " was relayed past the exchange limit of "
        ++ toString limit)
    let frame ← decodeRelay text "exchange"
    expectMessage frame (Payload.numbered index)
      ("Message #" ++ toString index ++ " failed")
    return false

/-- The messages of a series from one number on to the limit, `left` of them
before it. -/
def exchangeFrom (initiator peer limit : Nat) : (left index : Nat) → Run Unit
  | left, index => do
    if ← exchangeNumbered initiator peer limit index then return
    match left with
    | 0 => return
    | left + 1 => exchangeFrom initiator peer limit left (index + 1)

/-- As many messages as the limit says are relayed, and the next one closes
the peer. -/
def maxExchange (c : Conditions) : Run Unit := do
  let limit ← Run.ofExcept c.settings.exchangeLimit
  let (initiator, peer) ← pair c.settings
  exchangeFrom initiator peer limit limit 0
  expectClosed peer "Receiver did not close"
  hangUp [initiator]

/-- One message of the lifetime scenario: whether it found the channel
closed. Where the sender is closed, the peer has the grace to follow. -/
def exchangeOnce (c : Conditions) (initiator peer index : Nat) : Run Bool := do
  let message := Payload.numbered index
  let received ←
    match ← (Session.send initiator message).attempt with
    | .ok () => some <$> Session.receive peer
    | .error e =>
      if e.isCloseSignal then Session.receiveWithin peer c.timing.closeGrace
      else Run.fail e
  match received with
  | some (.closed _) => return true
  | some (.message text) =>
    let frame ← decodeRelay text "periodic"
    expectMessage frame message ("Message #" ++ toString index ++ " failed")
    return false
  | none =>
    Run.fail (.assertion "Sender was closed but the receiver stayed open")

/-- The messages of the lifetime scenario from one number on, `left` more
after this one. -/
def exchangeUntilClosed (c : Conditions) (initiator peer startedAt : Nat) :
    (left index : Nat) → Run Unit
  | left, index => do
    if ← exchangeOnce c initiator peer index then return
    Run.pause c.timing.periodInterval
    match left with
    | 0 =>
      let elapsed := (← Run.get).paused - startedAt
      Run.fail (.assertion
        ("Connection open too long? " ++ toString (index + 1)
          ++ " exchanges over "
          ++ Decimal.seconds elapsed ++ "s"))
    | left + 1 =>
      exchangeUntilClosed c initiator peer startedAt left (index + 1)

/-- The service closes a channel that stays open. -/
def maxPeriod (c : Conditions) : Run Unit := do
  let (initiator, peer) ← pair c.settings
  let startedAt := (← Run.get).paused
  exchangeUntilClosed c initiator peer startedAt
    (c.timing.periodMaxIterations - 1) 0
  expectClosed peer "Receiver did not close"
  hangUp [initiator]

/-- What a session on a made-up channel must show: that it is over. -/
def expectIntruderClosed (c : Conditions) (intruder : Nat) : Run Unit := do
  let id := c.chance.channelId
  match ← Session.receiveWithin intruder c.timing.closeGrace with
  | some (.closed _) => expectClosed intruder "Receiver did not close."
  | some (.message text) =>
    Run.fail (.assertion
      ("Frame delivered on fabricated channel " ++ id ++ ": "
        ++ RelayFrame.shown text))
  | none =>
    Run.fail (.assertion
      ("Connection with fabricated channel " ++ id ++ " stayed open"))

/-- A party with a made-up channel id does not get into the channel. -/
def badChannel (c : Conditions) : Run Unit := do
  let (initiator, handshake) ← initiate c.settings
  let id := c.chance.channelId
  ensure (id != handshake.channelId) "Oops, matching channelids"
  let url := c.settings.baseUrl ++ handshake.linkBase ++ "/" ++ id
  match ← (Session.connect url).attempt with
  | .ok (intruder, _) => expectIntruderClosed c intruder
  | .error (.closed _) => Run.pure ()
  | .error (.refused _) => Run.pure ()
  | .error e => Run.fail e
  hangUp [initiator]

-- ================================================================== runs

def play (c : Conditions) : ScenarioKind → Run Unit
  | .simpleRelay => simpleRelay c
  | .fullExchange => fullExchange c
  | .maxData => maxData c
  | .maxExchange => maxExchange c
  | .maxPeriod => maxPeriod c
  | .badChannel => badChannel c

/-- Runs one scenario (`run`); its failure is told with its name. -/
def run (c : Conditions) (kind : ScenarioKind) : Run Unit :=
  (play c kind).mapFailure (.scenarioFailed kind.name)

end Scenario

end PairingHarness
