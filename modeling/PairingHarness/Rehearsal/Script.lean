/-
A far end that plays a script.

The script says for each connection, in the order in which they are opened,
how the upgrade is answered, what is sent right after it, and what is sent
in reaction to each message. A cue may be meant for another connection than
its own; one that is not open, or on which the far end has ended its stream,
swallows it. Past the end of the script every upgrade is refused.
-/
import PairingHarness.Json.Escaped
import PairingHarness.Network.World

namespace PairingHarness.Rehearsal

open Network

-- ================================================================ script

/-- Something to be sent. In texts, `{payload}` stands for the message that
is reacted to. -/
inductive Line where
  | text (s : String)
  | binary (bytes : List UInt8)
  | fragments (pieces : List String)
  | ping
  | pong
  | close (frame : Option CloseFrame)
  /-- The end of the stream; the far end goes on reading. -/
  | ended
  | reset
  | violation (v : Violation)
  deriving Repr

/-- A line and the connection that it is meant for, where that is not its
own. -/
structure Cue where
  line : Line
  other : Option Nat
  deriving Repr

/-- What is played on one connection. -/
structure Part where
  upgrade : Answer
  opening : List Cue
  /-- Played at the first message, the second, and so on. -/
  replies : List (List Cue)
  rest : List Cue
  deriving Repr

/-- What is played on a connection that the script does not know. -/
def Part.unknown : Part :=
  ⟨.status 503, [], [], []⟩

/-- The parts of the connections, in the order in which they are opened. -/
abbrev Script := List Part

def Script.part (s : Script) (conn : Nat) : Part :=
  s.getD conn .unknown

-- ============================================================== messages

/-- What stands for the message in the texts of a script. -/
def payloadMark : String := "\x7bpayload\x7d"

/-- A text of the script with the message put in. -/
def withPayload (message text : String) : String :=
  text.replace payloadMark
    (String.ofList (message.toList.flatMap Json.escapedChar))

/-- What arrives when a line is played in reaction to a message. -/
def Line.arrivals (message : String) : Line → List Arrival
  | .text s => [.event (.text (withPayload message s))]
  | .binary bytes => [.event (.binary bytes)]
  | .fragments [] => []
  | .fragments pieces =>
    [.event (.text (String.join (pieces.map (withPayload message))))]
  | .ping => [.ping]
  | .pong => [.pong]
  | .close frame => [.event (.close frame)]
  | .ended => [.event .ended]
  | .reset => [.event .reset]
  | .violation v => [.event (.violation v)]

/-- Whether nothing can be sent after a line. -/
def Line.isLast : Line → Bool
  | .ended | .reset => true
  | _ => false

-- ================================================================== play

/-- How far a connection has come. -/
structure Place where
  /-- The messages that were reacted to. -/
  heard : Nat
  /-- Whether what is meant for it still gets there. -/
  isOpen : Bool
  deriving DecidableEq, Repr

/-- Plays a cue: what it sends, and whether more can be sent. -/
def playCue (own : Nat) (message : String)
    (state : List Place × List Delivery) (cue : Cue) :
    List Place × List Delivery :=
  let conn := cue.other.getD own
  match state.1[conn]? with
  | some ⟨heard, true⟩ =>
    (state.1.set conn ⟨heard, !cue.line.isLast⟩,
      state.2 ++ (cue.line.arrivals message).map fun a => ⟨conn, a⟩)
  | _ => state

/-- Reacts to an act of the harness. -/
def react (script : Script) (places : List Place) :
    Act → List Place × List Delivery
  | .opened _ =>
    let part := script.part places.length
    let isOpen := part.upgrade = .accepted
    let places := places ++ [⟨0, isOpen⟩]
    if isOpen then
      part.opening.foldl (playCue (places.length - 1) "") (places, [])
    else (places, [])
  | .wrote conn (.text message) =>
    let heard := (places[conn]?.map Place.heard).getD 0
    let part := script.part conn
    (part.replies.getD heard part.rest).foldl (playCue conn message)
      (places.modify conn fun p => { p with heard := heard + 1 }, [])
  | .wrote conn (.close _) =>
    (places.modify conn fun p => { p with isOpen := false }, [])
  | .waited _ => (places, [])

/-- How far the connections have come after acts, and what the latest of
them made the far end send. The acts are given latest first. -/
def play (script : Script) : List Act → List Place × List Delivery
  | [] => ([], [])
  | act :: past => react script (play script past).1 act

/-- The far end that plays a script at the addresses at which it is reached.
-/
def Script.service (script : Script) (reaches : Url → Bool) : Service where
  answer past url :=
    if reaches url then
      some (script.part (play script past).1.length).upgrade
    else none
  refuse _ _ _ := none
  sends acts := (play script acts).2

-- =================================================================== log

/-- What the far end heard on one connection. -/
structure Heard where
  target : String
  frames : List Outgoing
  deriving DecidableEq, Repr

/-- What the far end heard, connection by connection. -/
def heardOf (w : World) : List Heard :=
  w.sessions.mapIdx fun conn s =>
    ⟨s.target, w.acts.reverse.filterMap fun
      | .wrote c frame => if c = conn then some frame else none
      | _ => none⟩

end PairingHarness.Rehearsal
