/-
The verdict on the ceiling of the data.

One payload, as long as the ceiling or longer, goes from the initiator;
the pause passes, and the peer listens once, within the grace. The
sender may find itself closed, which is let pass; any other failure to
send breaks the scenario. What the peer then hears decides
(`judge`): its end, in any form, is what must come, and a message of
whatever content, silence and a failed read each break the scenario in
their own way (`Breaks`).

There is nothing else that can happen (`exists_decides`), so the verdict
is an iff on either side. That the end is heard is a fact about the
service: it is the first event that reaches the peer, pings and pongs
apart (`hears_end_iff`). The payload is the one message that is sent
(`sends_of_hears`).

The order of the pause and the read matters. The payload is out, the
service may have closed on the sender before it closes on the peer, and
after the pause both have had their time; so one bounded read is enough,
and whatever it gives is final.
-/
import PairingHarness.Proofs.Network.Reaching
import PairingHarness.Proofs.Payload
import PairingHarness.Proofs.Scenario.Pairing

namespace PairingHarness.Scenario.Oversize

open Network

variable {c : Conditions} {initiator peer limit : Nat} {w w₁ w₂ w' : World}

-- ======================================================= the statement

/-- The payload: as many bytes as the ceiling, drawn by chance. -/
def payload (c : Conditions) (limit : Nat) : String :=
  Payload.printable (c.chance.bytes limit)

/-- The payload is sent, or finds its sender closed, and the pause after
it passes. -/
inductive Offered (c : Conditions) (initiator limit : Nat) (w : World) :
    World → Prop where
  | sent {w₁ : World}
      (h : Session.send initiator (payload c limit) w = (.done (), w₁)) :
      Offered c initiator limit w
        (w₁.perform (.waited (.pause c.timing.settle)))
  | closed {r : String} {w₁ : World}
      (h : Session.send initiator (payload c limit) w
        = (.failed (.closed r), w₁)) :
      Offered c initiator limit w
        (w₁.perform (.waited (.pause c.timing.settle)))

/-- What the peer hears after that within the grace. -/
def Hears (c : Conditions) (initiator peer limit : Nat) (w : World)
    (o : Outcome (Option Received)) (w' : World) : Prop :=
  ∃ w₁, Offered c initiator limit w w₁
    ∧ Session.receiveWithin peer c.timing.closeGrace w₁ = (o, w')

/-- How the peer waits for it. -/
def graceWait (c : Conditions) (peer : Nat) : Wait :=
  .arrivalWithin peer (max c.timing.closeGrace Session.minWait)

/-- What can go wrong, and the failure that tells it. -/
inductive Breaks (c : Conditions) (initiator peer limit : Nat) (w : World) :
    Failure → Prop where
  | sendFails {e : Failure} {w' : World}
      (h : Session.send initiator (payload c limit) w = (.failed e, w'))
      (he : e.isCloseSignal = false) : Breaks c initiator peer limit w e
  | readFails {e : Failure} {w' : World}
      (h : Hears c initiator peer limit w (.failed e) w') :
      Breaks c initiator peer limit w e
  | delivered {text : String} {w' : World}
      (h : Hears c initiator peer limit w (.done (some (.message text))) w') :
      Breaks c initiator peer limit w (.assertion
        ("Receiver got a " ++ toString text.utf8ByteSize
          ++ " byte frame although max_data is " ++ toString limit))
  | silent {w' : World}
      (h : Hears c initiator peer limit w (.done none) w') :
      Breaks c initiator peer limit w (.assertion "Receiver did not close")

/-- What decides the scenario, and what it then ends in. -/
inductive Decides (c : Conditions) (initiator peer limit : Nat) (w : World) :
    Outcome Unit → Prop where
  | good {r : String} {w' : World}
      (h : Hears c initiator peer limit w (.done (some (.closed r))) w') :
      Decides c initiator peer limit w (.done ())
  | bad {e : Failure} (h : Breaks c initiator peer limit w e) :
      Decides c initiator peer limit w (.failed e)

-- ============================================================ the payload

/-- The payload is as long as the ceiling, or longer. -/
theorem length_le_payload (c : Conditions) (limit : Nat) :
    limit ≤ (payload c limit).utf8ByteSize := by
  have hle := Payload.length_le_printable (c.chance.bytes limit)
  unfold Chance.bytes at hle
  rw [List.length_map, List.length_range] at hle
  exact hle

theorem tolerateClose_of_done {r : Run Unit} (h : r w = (.done (), w')) :
    tolerateClose r w = (.done (), w') := by
  unfold tolerateClose
  rw [Run.bind_done (Run.attempt_done h)]
  rfl

/-- A sender that finds itself closed is let pass. -/
theorem tolerateClose_of_closed {r : Run Unit} {reason : String}
    (h : r w = (.failed (.closed reason), w')) :
    tolerateClose r w = (.done (), w') := by
  unfold tolerateClose
  rw [Run.bind_done (Run.attempt_failed h)]
  rfl

theorem tolerateClose_of_failed {r : Run Unit} {e : Failure}
    (h : r w = (.failed e, w')) (he : e.isCloseSignal = false) :
    tolerateClose r w = (.failed e, w') := by
  unfold tolerateClose
  rw [Run.bind_done (Run.attempt_failed h)]
  simp only [he]
  rfl

/-- Offering the payload is no call on the session of the peer. -/
theorem course_of_offered (hne : initiator ≠ peer)
    (h : Offered c initiator limit w w') : Course peer w [] w' := by
  cases h with
  | sent h => exact (course_of_send hne h).append (course_of_wait _ _)
  | closed h => exact (course_of_send hne h).append (course_of_wait _ _)

/-- Whatever the peer hears, one message was sent, or tried to be. -/
theorem sends_of_hears {o : Outcome (Option Received)}
    (hne : peer ≠ initiator) (h : Hears c initiator peer limit w o w') :
    Sends initiator w [payload c limit] w' := by
  obtain ⟨w₁, hoffered, hread⟩ := h
  have hafter := sends_nil (course_of_read hne hread)
  have hpause : ∀ w₀, Sends initiator w₀ []
      (w₀.perform (.waited (.pause c.timing.settle))) :=
    fun w₀ => sends_nil (course_of_wait _ w₀)
  cases hoffered with
  | sent h => exact ((sends_of_send h).append (hpause _)).append hafter
  | closed h => exact ((sends_of_send h).append (hpause _)).append hafter

-- =========================================================== what is heard

/-- What the scenario comes to after what the peer has heard. -/
def judge (initiator peer limit : Nat) (heard : Option Received) : Run Unit := do
  match heard with
  | some (.message text) =>
    Run.fail (.assertion
      ("Receiver got a " ++ toString text.utf8ByteSize
        ++ " byte frame although max_data is " ++ toString limit))
  | _ => Run.pure ()
  expectClosed peer "Receiver did not close"
  hangUp [initiator]

/-- After a payload that was offered the scenario is one bounded read
and what it comes to. -/
theorem maxData_of_offered (hlimit : c.settings.dataLimit = .ok limit)
    (hpair : pair c.settings w = (.done (initiator, peer), w₁))
    (h : Offered c initiator limit w₁ w₂) :
    maxData c w
      = (Session.receiveWithin peer c.timing.closeGrace
        >>= judge initiator peer limit) w₂ := by
  unfold maxData
  rw [hlimit, Run.bind_done (Run.ofExcept_ok limit w), Run.bind_done hpair]
  cases h with
  | sent h => exact Run.bind_done (tolerateClose_of_done h)
  | closed h => exact Run.bind_done (tolerateClose_of_closed h)

/-- What the scenario comes to is what is judged of what the peer heard. -/
theorem maxData_of_hears {heard : Option Received}
    (hlimit : c.settings.dataLimit = .ok limit)
    (hpair : pair c.settings w = (.done (initiator, peer), w₁))
    (h : Hears c initiator peer limit w₁ (.done heard) w') :
    maxData c w = judge initiator peer limit heard w' := by
  obtain ⟨w₂, hoffered, hread⟩ := h
  rw [maxData_of_offered hlimit hpair hoffered, Run.bind_done hread]

theorem maxData_of_readFails {e : Failure}
    (hlimit : c.settings.dataLimit = .ok limit)
    (hpair : pair c.settings w = (.done (initiator, peer), w₁))
    (h : Hears c initiator peer limit w₁ (.failed e) w') :
    maxData c w = (.failed e, w') := by
  obtain ⟨w₂, hoffered, hread⟩ := h
  rw [maxData_of_offered hlimit hpair hoffered, Run.bind_failed hread]

theorem maxData_of_sendFails {e : Failure}
    (hlimit : c.settings.dataLimit = .ok limit)
    (hpair : pair c.settings w = (.done (initiator, peer), w₁))
    (h : Session.send initiator (payload c limit) w₁ = (.failed e, w'))
    (he : e.isCloseSignal = false) : maxData c w = (.failed e, w') := by
  unfold maxData
  rw [hlimit, Run.bind_done (Run.ofExcept_ok limit w), Run.bind_done hpair]
  exact Run.bind_failed (tolerateClose_of_failed h he)

theorem judge_message (text : String) (w : World) :
    judge initiator peer limit (some (.message text)) w
      = (.failed (.assertion
          ("Receiver got a " ++ toString text.utf8ByteSize
            ++ " byte frame although max_data is " ++ toString limit)), w) :=
  Run.bind_failed rfl

theorem judge_of_inUse (h : (w.session peer).isOver = false) :
    judge initiator peer limit none w
      = (.failed (.assertion "Receiver did not close"), w) := by
  show (expectClosed peer "Receiver did not close" >>= _) w = _
  refine Run.bind_failed ?_
  unfold expectClosed
  rw [Run.bind_done (Session.isClosed_apply peer w), h]
  exact ensure_false _ w

theorem judge_of_over {r : String} (h : (w.session peer).isOver = true) :
    judge initiator peer limit (some (.closed r)) w = hangUp [initiator] w :=
  Run.bind_done (expectClosed_of_over h _)

/-- The peer is in use when it starts to listen: nothing has been done
on its session since it was paired. -/
theorem inUse_of_offered
    (hpair : pair c.settings w = (.done (initiator, peer), w₁))
    (h : Offered c initiator limit w₁ w₂) :
    (w₂.session peer).closed = none ∧ (w₂.session peer).writable = true :=
  Session.isOver_eq_false_iff.1 (inUse_of_idle
    (course_of_offered (ne_of_pair hpair).symm h) (peer_inUse hpair))

/-- A wait in vain leaves it so. -/
theorem inUse_of_silent
    (hpair : pair c.settings w = (.done (initiator, peer), w₁))
    (h : Hears c initiator peer limit w₁ (.done none) w') :
    (w'.session peer).isOver = false := by
  obtain ⟨w₂, hoffered, hread⟩ := h
  obtain ⟨hclosed, hwritable⟩ := inUse_of_offered hpair hoffered
  have hends := Session.read_ends hclosed (graceWait c peer)
  have hread' : Session.read peer (graceWait c peer) w₂ = (.done none, w') :=
    hread
  rw [hread'] at hends
  obtain ⟨hnone, hsame⟩ := Session.ReadEnds.session hclosed hends
  exact Session.isOver_eq_false_iff.2 ⟨hnone, hsame.trans hwritable⟩

-- ============================================================ the scenario

/-- What decides the scenario is what it ends in, and it has then sent
the payload. -/
theorem maxData_of_decides {o : Outcome Unit}
    (hlimit : c.settings.dataLimit = .ok limit)
    (hpair : pair c.settings w = (.done (initiator, peer), w₁))
    (h : Decides c initiator peer limit w₁ o) :
    (maxData c w).1 = o
      ∧ Sends initiator w₁ [payload c limit] (maxData c w).2 := by
  have hne := ne_of_pair hpair
  cases h with
  | @good r w' h =>
      have hover : (w'.session peer).isOver = true := by
        obtain ⟨w₂, -, hread⟩ := h
        exact Session.isOver_of_closed (Session.closed_of_read hread)
      obtain ⟨w'', hhangUp⟩ := hangUp_done [initiator] w'
      have hall := (sends_of_hears hne h).append (sends_of_hangUp hhangUp)
      rw [maxData_of_hears hlimit hpair h, judge_of_over hover, hhangUp]
      exact ⟨rfl, hall⟩
  | bad h =>
      cases h with
      | sendFails h he =>
          rw [maxData_of_sendFails hlimit hpair h he]
          exact ⟨rfl, sends_of_send h⟩
      | readFails h =>
          rw [maxData_of_readFails hlimit hpair h]
          exact ⟨rfl, sends_of_hears hne h⟩
      | delivered h =>
          rw [maxData_of_hears hlimit hpair h, judge_message]
          exact ⟨rfl, sends_of_hears hne h⟩
      | silent h =>
          rw [maxData_of_hears hlimit hpair h,
            judge_of_inUse (inUse_of_silent hpair h)]
          exact ⟨rfl, sends_of_hears hne h⟩

/-- Something always decides it. -/
theorem exists_decides (c : Conditions) (initiator peer limit : Nat)
    (w : World) : ∃ o, Decides c initiator peer limit w o := by
  -- what the peer hears after a payload that was offered
  have hheard : ∀ w₁, Offered c initiator limit w w₁ →
      ∃ o, Decides c initiator peer limit w o := by
    intro w₁ hoffered
    cases hread : Session.receiveWithin peer c.timing.closeGrace w₁ with
    | mk o w' =>
        have h : Hears c initiator peer limit w o w' := ⟨w₁, hoffered, hread⟩
        cases o with
        | failed e => exact ⟨_, .bad (.readFails h)⟩
        | stalled => exact absurd hread (Session.read_not_stalled _)
        | done heard =>
            rcases heard with _ | ⟨text | r⟩
            · exact ⟨_, .bad (.silent h)⟩
            · exact ⟨_, .bad (.delivered h)⟩
            · exact ⟨_, .good h⟩
  cases hs : Session.send initiator (payload c limit) w with
  | mk o w₁ =>
      cases o with
      | done u => exact hheard _ (.sent hs)
      | stalled => exact absurd hs (Session.send_not_stalled _)
      | failed e =>
          cases e with
          | closed r => exact hheard _ (.closed hs)
          | _ => exact ⟨_, .bad (.sendFails hs rfl)⟩

/-- The scenario ends in just the one way that is decided by what the
service does. -/
theorem maxData_eq_iff {o : Outcome Unit}
    (hlimit : c.settings.dataLimit = .ok limit)
    (hpair : pair c.settings w = (.done (initiator, peer), w₁)) :
    (maxData c w).1 = o ↔ Decides c initiator peer limit w₁ o := by
  constructor
  · intro h
    obtain ⟨o', ho'⟩ := exists_decides c initiator peer limit w₁
    rw [(maxData_of_decides hlimit hpair ho').1] at h
    subst h
    exact ho'
  · exact fun h => (maxData_of_decides hlimit hpair h).1

/-- The peer hears its end exactly when that is the first event that
reaches it, pings and pongs apart. -/
theorem hears_end_iff
    (hpair : pair c.settings w = (.done (initiator, peer), w₁)) {r : String} :
    (∃ w', Hears c initiator peer limit w₁ (.done (some (.closed r))) w')
      ↔ ∃ w₂ e, Offered c initiator limit w₁ w₂
        ∧ Session.Reaches peer (graceWait c peer) w₂ e
        ∧ Session.Ends e r := by
  constructor
  · intro h
    obtain ⟨w', w₂, hoffered, hread⟩ := h
    obtain ⟨hclosed, -⟩ := inUse_of_offered hpair hoffered
    obtain ⟨e, hreaches, he⟩ :=
      (Session.read_closed_iff hclosed).1 ⟨w', hread⟩
    exact ⟨w₂, e, hoffered, hreaches, he⟩
  · intro h
    obtain ⟨w₂, e, hoffered, hreaches, he⟩ := h
    obtain ⟨hclosed, -⟩ := inUse_of_offered hpair hoffered
    obtain ⟨w', hread⟩ := (Session.read_closed_iff hclosed).2 ⟨e, hreaches, he⟩
    exact ⟨w', w₂, hoffered, hread⟩

/-- Once a channel is paired, the scenario passes exactly when the
payload is sent or finds its sender closed and the peer then hears its
end within the grace; that is, when an event that ends the session, in
whatever form, is the first that reaches the peer but for pings and
pongs. It fails exactly when something breaks it, with the failure that
tells the breach: a failure to send that is no close, a message, silence
or a failed read; and it never waits for ever. However it ends, it has
sent the payload, or tried to, and no other message, and the payload has
as many bytes as the ceiling or more. -/
theorem maxData_verdict (hlimit : c.settings.dataLimit = .ok limit)
    (hpair : pair c.settings w = (.done (initiator, peer), w₁)) :
    ((maxData c w).1 = .done ()
        ↔ ∃ r w', Hears c initiator peer limit w₁
          (.done (some (.closed r))) w')
      ∧ ((maxData c w).1 = .done ()
        ↔ ∃ w₂ e r, Offered c initiator limit w₁ w₂
          ∧ Session.Reaches peer (graceWait c peer) w₂ e ∧ Session.Ends e r)
      ∧ (∀ e, (maxData c w).1 = .failed e
        ↔ Breaks c initiator peer limit w₁ e)
      ∧ (maxData c w).1 ≠ .stalled
      ∧ Sends initiator w₁ [payload c limit] (maxData c w).2
      ∧ limit ≤ (payload c limit).utf8ByteSize := by
  -- the one good end is that a close is heard; all else is a breach
  have hpass : (maxData c w).1 = .done ()
      ↔ ∃ r w', Hears c initiator peer limit w₁
        (.done (some (.closed r))) w' := by
    rw [maxData_eq_iff hlimit hpair]
    constructor
    · intro h
      cases h with
      | good h => exact ⟨_, _, h⟩
    · intro h
      obtain ⟨r, w', h⟩ := h
      exact .good h
  refine ⟨hpass, ?_, fun e => ?_, ?_, ?_, length_le_payload c limit⟩
  · rw [hpass]
    constructor
    · intro h
      obtain ⟨r, hheard⟩ := h
      obtain ⟨w₂, e, hreaches⟩ := (hears_end_iff hpair).1 hheard
      exact ⟨w₂, e, r, hreaches⟩
    · intro h
      obtain ⟨w₂, e, r, hreaches⟩ := h
      exact ⟨r, (hears_end_iff hpair).2 ⟨w₂, e, hreaches⟩⟩
  · rw [maxData_eq_iff hlimit hpair]
    constructor
    · intro h
      cases h with
      | bad h => exact h
    · exact .bad
  · intro hstalled
    rw [maxData_eq_iff hlimit hpair] at hstalled
    cases hstalled
  · obtain ⟨o, ho⟩ := exists_decides c initiator peer limit w₁
    exact (maxData_of_decides hlimit hpair ho).2

/-- A service that answers a message of the initiator by resetting it.
The peer gets a ping then, and a pong and an empty message when it
listens. -/
def cuttingOff : Service where
  answer _ _ := some .accepted
  refuse _ _ _ := none
  sends
    | .opened _ :: [] => [⟨0, .event (.text "\x7b\"link\":\"/v1/ws/a\"\x7d")⟩]
    | .opened _ :: _ => [⟨1, .event (.text "\x7b\"link\":\"/v1/ws/a\"\x7d")⟩]
    | .wrote 0 (.text _) :: _ => [⟨0, .event .reset⟩, ⟨1, .ping⟩]
    | .waited (.arrivalWithin 1 _) :: _ => [⟨1, .pong⟩, ⟨1, .event (.text "")⟩]
    | _ => []

/-- Conditions with a ceiling of three bytes. -/
def threeBytes : Conditions where
  settings := { Settings.defaults with maxData := "3" }
  timing := .defaults
  chance := ⟨fun _ => 0, ""⟩

/-- With that service and that ceiling the scenario passes. -/
theorem cuttingOff_passes :
    (maxData threeBytes (World.start cuttingOff)).1 = .done () := by
  have hlimit : threeBytes.settings.dataLimit = .ok 3 := rfl
  have hpair : pair threeBytes.settings (World.start cuttingOff)
      = (.done (0, 1),
          (pair threeBytes.settings (World.start cuttingOff)).2) := rfl
  generalize hw₁ : (pair threeBytes.settings (World.start cuttingOff)).2
    = w₁ at hpair
  obtain ⟨-, hpass, -⟩ := maxData_verdict hlimit hpair
  subst hw₁
  rw [hpass]
  have hquiet : Quiet [.ping] := fun a ha => Or.inl (List.mem_singleton.1 ha)
  have hquiet' : Quiet [.pong] := fun a ha => Or.inr (List.mem_singleton.1 ha)
  exact ⟨_, _, _, .sent rfl, .waited hquiet hquiet' rfl, .emptyText⟩

end PairingHarness.Scenario.Oversize
