/-
Opening a session that the service drops.

Before its handshake a service can end a connection that it took in
three phases (`Dropped`): it leaves the upgrade unanswered, or it resets
the connection during it, or it goes through with the upgrade and ends
the session in any of the ways in which a session ends. Pings and pongs
may come before the last. Opening fails in each of them; with the signal
of a closed session in all but the first (`connect_dropped_iff`), where
it is a failure of the transport (`connect_unanswered`).

After the upgrade opening is one read. It meets the first event that the
service sends on the connection, at once or during the wait (`Greets`),
and comes to what that event gives (`receive_greeting`).
-/
import PairingHarness.Proofs.Network.Opening
import PairingHarness.Proofs.Network.Reaching

namespace PairingHarness.Network.Session

variable {w w' : World} {conn : Nat} {url target : String} {e : Event}

-- ========================================================= the first event

/-- The first event that the service sends on the next connection, once
it was asked for the target, is this. -/
inductive Greets (w : World) (target : String) (e : Event) : Prop where
  | atOnce {quiet rest : List Arrival} (hq : Quiet quiet)
      (h : w.service.sendsOn w.sessions.length (.opened target :: w.acts)
        = quiet ++ .event e :: rest) : Greets w target e
  /-- It comes while the harness waits for it. -/
  | waited {quiet rest : List Arrival}
      (hopened : Quiet (w.service.sendsOn w.sessions.length
        (.opened target :: w.acts)))
      (hq : Quiet quiet)
      (h : w.service.sendsOn w.sessions.length
          (.waited (.arrival w.sessions.length) :: .opened target :: w.acts)
        = quiet ++ .event e :: rest) : Greets w target e

/-- It is the event that the read after the upgrade meets. -/
theorem reaches_of_greets (h : Greets w target e) (url : String) :
    Reaches w.sessions.length (.arrival w.sessions.length)
      (register url target w) e := by
  have hinbox : ((register url target w).session w.sessions.length).inbox
      = w.service.sendsOn w.sessions.length (.opened target :: w.acts) := by
    rw [(session_register url target w).2]
  cases h with
  | atOnce hq h => exact .atOnce hq (hinbox.trans h)
  | @waited quiet rest hopened hq h =>
      have hcomes : (register url target w).service.sendsOn
          w.sessions.length (.waited (.arrival w.sessions.length)
            :: (register url target w).acts) = quiet ++ .event e :: rest := by
        unfold register
        rw [World.perform_service, World.perform_acts]
        exact h
      exact .waited (hinbox ▸ hopened) hq hcomes

/-- The read that opens a session comes to what the first event gives. -/
theorem receive_greeting {x : Answered} (h : Greets w target e)
    (hg : Gives e x) (url : String) :
    ∃ w', receive w.sessions.length (register url target w)
      = (x.outcome, w') := by
  obtain ⟨w', hread⟩ := read_of_reaches (closed_register url target w)
    (reaches_of_greets h url) hg
  unfold receive
  cases x with
  | ok r =>
      rw [Run.bind_done hread]
      exact ⟨w', rfl⟩
  | error f =>
      rw [Run.bind_failed hread]
      exact ⟨w', rfl⟩

-- ================================================================ dropping

/-- The phases in which a connection can end before the handshake. -/
inductive Phase where
  /-- Before the upgrade is answered to the end of its status line. -/
  | unanswered
  /-- During the upgrade, by a reset. -/
  | upgrade
  /-- After the upgrade. -/
  | session
  deriving DecidableEq, Repr

/-- The ways in which a service ends a connection that it took before it
has sent a handshake. -/
inductive Dropped (w : World) (address : Url) : Phase → Prop where
  | unanswered
      (h : w.service.answer w.acts address = some (.defective .incomplete)) :
      Dropped w address .unanswered
  | reset (h : w.service.answer w.acts address = some .reset) :
      Dropped w address .upgrade
  /-- The first event on the session is one that ends it. -/
  | ended {e : Event} {r : String}
      (h : w.service.answer w.acts address = some .accepted)
      (hfirst : Greets w address.target e) (he : Ends e r) :
      Dropped w address .session

variable {address : Url}

/-- An upgrade that is left unanswered is a failure of the transport. -/
theorem connect_unanswered (hurl : Url.parse url = .ok address)
    (h : w.service.answer w.acts address = some (.defective .incomplete)) :
    connect url w = (.failed (.transport ("connect to " ++ url ++ ": "
        ++ UpgradeDefect.incomplete.message)),
      register url address.target w) := by
  refine Run.bind_failed ?_
  unfold dial
  simp only [hurl, Run.get_bind, h, Run.change_bind]
  rfl

/-- A connection that is reset during the upgrade is a closed session, and
its reason says so. -/
theorem connect_reset (hurl : Url.parse url = .ok address)
    (h : w.service.answer w.acts address = some .reset) :
    connect url w = (.failed (.closed ("during upgrade: " ++ resetReason)),
      register url address.target w) := by
  refine Run.bind_failed ?_
  unfold dial
  simp only [hurl, Run.get_bind, h, Run.change_bind]
  rfl

/-- An upgrade that is accepted leaves a new session, on which nothing was
read yet. -/
theorem dial_accepted (hurl : Url.parse url = .ok address)
    (h : w.service.answer w.acts address = some .accepted) :
    dial url w = (.done w.sessions.length, register url address.target w) := by
  unfold dial
  simp only [hurl, Run.get_bind, h, Run.change_bind]
  rfl

/-- A session whose end comes first fails to open with the end's
reason. -/
theorem connect_ended {r : String} (hurl : Url.parse url = .ok address)
    (h : w.service.answer w.acts address = some .accepted)
    (hfirst : Greets w address.target e) (he : Ends e r) :
    ∃ w', connect url w = (.failed (.closed r), w') := by
  obtain ⟨w', hreceive⟩ := receive_greeting hfirst (.ends he) url
  refine ⟨w', ?_⟩
  unfold connect
  rw [Run.bind_done (dial_accepted hurl h), Run.bind_done hreceive]
  rfl

/-- A service that drops a session before its handshake is told as the
end of the session unless it leaves the upgrade unanswered. -/
theorem connect_dropped_iff {phase : Phase}
    (hurl : Url.parse url = .ok address) (h : Dropped w address phase) :
    (∃ reason w', connect url w = (.failed (.closed reason), w'))
      ↔ phase ≠ .unanswered := by
  cases h with
  | unanswered h =>
      rw [connect_unanswered hurl h]
      constructor
      · rintro ⟨reason, w', heq⟩
        cases heq
      · exact fun h => absurd rfl h
  | reset h =>
      rw [connect_reset hurl h]
      exact ⟨fun _ => by decide, fun _ => ⟨_, _, rfl⟩⟩
  | ended h hfirst he =>
      obtain ⟨w', hconnect⟩ := connect_ended hurl h hfirst he
      exact ⟨fun _ => by decide, fun _ => ⟨_, w', hconnect⟩⟩

/-- A service that ends every stream without an answer. -/
def mute : Service where
  answer _ _ := some (.defective .incomplete)
  refuse _ _ _ := none
  sends _ := []

/-- An upgrade left unanswered is a way of dropping the connection that
is not told as its end. -/
theorem connect_mute :
    ∃ address, Url.parse "ws://h/v1/ws/" = .ok address
      ∧ Dropped (World.start mute) address .unanswered
      ∧ ¬∃ reason w', connect "ws://h/v1/ws/" (World.start mute)
        = (.failed (.closed reason), w') := by
  have hurl : Url.parse "ws://h/v1/ws/"
      = .ok ⟨some "ws", "h", "/v1/ws/", none⟩ := rfl
  refine ⟨_, hurl, .unanswered rfl, ?_⟩
  rintro ⟨reason, w', h⟩
  rw [connect_unanswered hurl rfl] at h
  cases h

/-- A service that takes every connection, sends a ping, and to the
first wait a pong and an empty message. -/
def fading : Service where
  answer _ _ := some .accepted
  refuse _ _ _ := none
  sends
    | .opened _ :: _ => [⟨0, .ping⟩]
    | .waited _ :: _ => [⟨0, .pong⟩, ⟨0, .event (.text "")⟩]
    | _ => []

/-- An empty message before the handshake. -/
theorem connect_fading :
    Dropped (World.start fading) ⟨some "ws", "h", "/v1/ws/", none⟩ .session
      ∧ ∃ reason w', connect "ws://h/v1/ws/" (World.start fading)
        = (.failed (.closed reason), w') := by
  have hurl : Url.parse "ws://h/v1/ws/"
      = .ok ⟨some "ws", "h", "/v1/ws/", none⟩ := rfl
  have hping : Quiet [.ping] := fun a ha => Or.inl (List.mem_singleton.1 ha)
  have hpong : Quiet [.pong] := fun a ha => Or.inr (List.mem_singleton.1 ha)
  have hfirst : Greets (World.start fading) "/v1/ws/" (.text "") :=
    .waited hping hpong rfl
  have hdropped : Dropped (World.start fading)
      ⟨some "ws", "h", "/v1/ws/", none⟩ .session :=
    .ended rfl hfirst .emptyText
  exact ⟨hdropped, (connect_dropped_iff hurl hdropped).2 (by decide)⟩

end PairingHarness.Network.Session
