/-
Services that reply with one event.

A service replies to what the harness does (`Service.Replies`) when it
sends one event in return, at once or once the harness waits for it, and
nothing else. Reading the reply leaves no trace of it but in the acts:
the inbox is empty as it was before, and no other session has changed
(`Heard`). So a run against such a service goes from one world without
anything in flight to the next, whenever its replies arrive.

These are the services of the ceilings and of the witnesses: a relay
that hands each message on does reply with one event to each frame. The
delay is left to the service, so a statement about such a run holds for
every way in which the replies may be late.
-/
import PairingHarness.Proofs.Network.Dropped

namespace PairingHarness.Network

-- ======================================================= the statement

/-- What a world becomes by an act and the reading of its reply. -/
structure Heard (conn : Nat) (act : Act) (w w' : World) : Prop where
  service : w'.service = w.service
  acts : w'.acts = act :: w.acts
    ∨ w'.acts = .waited (.arrival conn) :: act :: w.acts
  length : w'.sessions.length = w.sessions.length
  own : w'.session conn = { w.session conn with inbox := [] }
  others : ∀ other, other ≠ conn → w'.session other = w.session other

variable {w : World} {s : Service} {conn other : Nat} {act : Act}
  {acts : List Act} {e : Event} {text : String}

-- ======================================================== what is sent

namespace Session

end Session

end PairingHarness.Network
