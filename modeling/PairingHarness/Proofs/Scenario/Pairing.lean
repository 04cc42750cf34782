/-
A channel and the two sessions on it.

Pairing opens one session after another, so the peer's number follows
the initiator's (`numbers_of_pair`) and what is done on the one is no
call on the other. The session of the peer is in use when the pair is
made (`peer_inUse`).

The peer follows the link of the initiator's handshake as it is, and its
own handshake is not looked at: that both name one channel is the
service's business. Every scenario but the one with the intruder begins
with a pair.
-/
import PairingHarness.Proofs.Network.Aside
import PairingHarness.Proofs.Network.Opening
import PairingHarness.Proofs.Scenario.Checks

namespace PairingHarness.Scenario

open Network

variable {initiator peer : Nat} {handshake : Handshake} {s : Settings}
  {w w₁ w' : World}

/-- A pair is two sessions, the second of them opened through the link
of the first. -/
theorem pair_eq_done (h : pair s w = (.done (initiator, peer), w')) :
    ∃ handshake handshake' w₁,
      Session.connect (s.baseUrl ++ initiatePath) w
          = (.done (initiator, handshake), w₁)
        ∧ Session.connect (s.baseUrl ++ handshake.link) w₁
          = (.done (peer, handshake'), w') := by
  unfold pair initiate at h
  obtain ⟨⟨conn, handshake⟩, w₁, hfirst, h⟩ := Run.bind_eq_done h
  obtain ⟨⟨conn', handshake'⟩, w₂, hsecond, h⟩ := Run.bind_eq_done h
  cases h
  exact ⟨handshake, handshake', w₁, hfirst, hsecond⟩

/-- The two sessions are the next two. -/
theorem numbers_of_pair (h : pair s w = (.done (initiator, peer), w')) :
    initiator = w.sessions.length ∧ peer = w.sessions.length + 1
      ∧ w'.sessions.length = w.sessions.length + 2 := by
  obtain ⟨handshake, handshake', w₁, hfirst, hsecond⟩ := pair_eq_done h
  obtain ⟨hinitiator, hlen⟩ := Session.number_of_connect hfirst
  obtain ⟨hpeer, hlen'⟩ := Session.number_of_connect hsecond
  omega

theorem ne_of_pair (h : pair s w = (.done (initiator, peer), w')) :
    peer ≠ initiator := by
  obtain ⟨hinitiator, hpeer, -⟩ := numbers_of_pair h
  omega

/-- The peer has just been opened, so it is in use, whatever became of the
initiator meanwhile. -/
theorem peer_inUse (h : pair s w = (.done (initiator, peer), w')) :
    (w'.session peer).isOver = false := by
  obtain ⟨handshake, handshake', w₁, -, hsecond⟩ := pair_eq_done h
  exact Session.inUse_of_connect hsecond

theorem sends_of_hangUp {conn : Nat} {o : Outcome Unit}
    (h : hangUp [conn] w = (o, w')) : Sends conn w [] w' := by
  cases hclose : Session.close conn hangUpReason w with
  | mk o' w₁ =>
      rw [hangUp_cons hclose] at h
      cases h
      exact sends_of_close hclose

end PairingHarness.Scenario
