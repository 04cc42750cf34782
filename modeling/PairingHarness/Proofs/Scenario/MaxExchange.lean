/-
The verdict on the exchange limit.

A series of messages goes from the initiator to the peer, one relayed
before the next is sent. Where the series stands after `k` messages is
one world, and what happens there with message `k` is one of four
things: it is relayed as it was sent, below the limit, and the series
goes on; the peer closes at the limit, and the series is good; something
breaks, each breach with its failure; or nothing comes for ever.

`exchange_cases` says that there is no fifth, by looking at what a send
and a read can end in. The rest is an induction over the messages that
are relayed: a series goes on until one of the other three decides it
(`exists_decides`), at the limit at the latest, and whatever decides it
is what the scenario ends in (`maxExchange_of_decides`).

The limit enters in one place, the number at which a close is right: one
message earlier it is a breach on the side of the service and one later
the scenario has already failed, because a message too many came. So the
iff is in the number of messages that are relayed, and the case of a
series that is never decided is a wait of the peer's.
-/
import PairingHarness.Proofs.Scenario.Relaying

namespace PairingHarness.Scenario

open Network Payload

variable {initiator peer limit index : Nat} {w w₁ w₂ w' : World}

-- ======================================================= the statement

/-- A message of the series is handed on, whatever is told of its
sender. -/
def Relays (initiator peer index : Nat) (w w' : World) : Prop :=
  ∃ frame, HandsOn initiator peer (numbered index) frame w w'

/-- The messages from one number up to another, that one left out, are
relayed one after another. -/
inductive Relayed (initiator peer : Nat) :
    (first next : Nat) → World → World → Prop where
  | none (index : Nat) (w : World) : Relayed initiator peer index index w w
  | one {index next : Nat} {w w₁ w' : World} :
      Relays initiator peer index w w₁ →
      Relayed initiator peer (index + 1) next w₁ w' →
      Relayed initiator peer index next w w'

/-- A message is sent, or, where the limit is reached, finds its sender
closed. -/
inductive Passes (initiator limit index : Nat) (w w' : World) : Prop where
  | sent (h : Session.send initiator (numbered index) w = (.done (), w'))
  | closed {r : String} (hlimit : index = limit)
      (h : Session.send initiator (numbered index) w
        = (.failed (.closed r), w'))

/-- The message past the limit closes the peer. -/
def Closes (initiator peer limit : Nat) (w w' : World) : Prop :=
  ∃ w₁ r, Passes initiator limit limit w w₁
    ∧ Session.receive peer w₁ = (.done (.closed r), w')

/-- What can go wrong with a message, and the failure that tells it. -/
inductive Breaks (initiator peer limit index : Nat) (w : World) :
    Failure → Prop where
  | sendFails {e : Failure} {w₁ : World}
      (h : Session.send initiator (numbered index) w = (.failed e, w₁))
      (he : e.isCloseSignal = false) : Breaks initiator peer limit index w e
  | senderCloses {r : String} {w₁ : World}
      (h : Session.send initiator (numbered index) w
        = (.failed (.closed r), w₁))
      (hlt : index < limit) :
      Breaks initiator peer limit index w (.assertion
        ("Sender closed after " ++ toString index ++ " of " ++ toString limit
          ++ " exchanges"))
  | receiveFails {e : Failure} {w₁ w₂ : World}
      (hp : Passes initiator limit index w w₁)
      (h : Session.receive peer w₁ = (.failed e, w₂)) :
      Breaks initiator peer limit index w e
  | closesEarly {r : String} {w₁ w₂ : World}
      (hp : Passes initiator limit index w w₁)
      (h : Session.receive peer w₁ = (.done (.closed r), w₂))
      (hlt : index < limit) :
      Breaks initiator peer limit index w (.assertion
        ("Invalid message count " ++ toString index ++ ": closed before "
          ++ toString limit ++ " exchanges (" ++ r ++ ")"))
  | pastLimit {text : String} {w₁ w₂ : World}
      (hp : Passes initiator limit index w w₁)
      (h : Session.receive peer w₁ = (.done (.message text), w₂))
      (hlimit : index = limit) :
      Breaks initiator peer limit index w (.assertion
        ("Message #" ++ toString index
          ++ " was relayed past the exchange limit of " ++ toString limit))
  | undecodable {text : String} {e : Failure} {w₁ w₂ : World}
      (hp : Passes initiator limit index w w₁)
      (h : Session.receive peer w₁ = (.done (.message text), w₂))
      (hlt : index < limit) (he : RelayFrame.parse text = .error e) :
      Breaks initiator peer limit index w
        (.assertion ("exchange: " ++ e.message))
  | altered {text : String} {frame : RelayFrame} {w₁ w₂ : World}
      (hp : Passes initiator limit index w w₁)
      (h : Session.receive peer w₁ = (.done (.message text), w₂))
      (hlt : index < limit) (hf : RelayFrame.parse text = .ok frame)
      (hne : frame.message ≠ numbered index) :
      Breaks initiator peer limit index w (.assertion
        ("Message #" ++ toString index ++ " failed" ++ ": expected "
          ++ toString (numbered index).utf8ByteSize ++ " bytes "
          ++ preview (numbered index) ++ ", got "
          ++ toString frame.message.utf8ByteSize ++ " bytes "
          ++ preview frame.message))

/-- Nothing comes to the peer, and nothing ever will. -/
def Waits (initiator peer limit index : Nat) (w : World) : Prop :=
  ∃ w₁ w₂, Passes initiator limit index w w₁
    ∧ Session.receive peer w₁ = (.stalled, w₂)

/-- What decides a series at a message, and what the series then ends
in. -/
inductive Decides (initiator peer limit index : Nat) (w : World) :
    Outcome Unit → Prop where
  | good {w' : World} (hlimit : index = limit)
      (h : Closes initiator peer limit w w') :
      Decides initiator peer limit index w (.done ())
  | bad {e : Failure} (h : Breaks initiator peer limit index w e) :
      Decides initiator peer limit index w (.failed e)
  | never (h : Waits initiator peer limit index w) :
      Decides initiator peer limit index w .stalled

-- ============================================================ one message

theorem sendNumbered_of_passes
    (h : Passes initiator limit index w w') :
    sendNumbered initiator index limit w = (.done (), w') := by
  unfold sendNumbered
  cases h with
  | sent h =>
      rw [Run.bind_done (Run.attempt_done h)]
      rfl
  | closed hlimit h =>
      rw [Run.bind_done (Run.attempt_failed h), hlimit]
      simp only [Failure.isCloseSignal, beq_self_eq_true]
      rfl

theorem sendNumbered_of_fails {e : Failure}
    (h : Session.send initiator (numbered index) w = (.failed e, w'))
    (he : e.isCloseSignal = false) :
    sendNumbered initiator index limit w = (.failed e, w') := by
  unfold sendNumbered
  rw [Run.bind_done (Run.attempt_failed h)]
  simp only [he, Bool.false_eq_true, if_false]
  rfl

/-- A sender that is closed below the limit is told by the message at which
it was. -/
theorem sendNumbered_of_closes {r : String}
    (h : Session.send initiator (numbered index) w = (.failed (.closed r), w'))
    (hlt : index < limit) :
    sendNumbered initiator index limit w
      = (.failed (.assertion ("Sender closed after " ++ toString index
          ++ " of " ++ toString limit ++ " exchanges")), w') := by
  have hne : (index == limit) = false := by simp; omega
  unfold sendNumbered
  rw [Run.bind_done (Run.attempt_failed h)]
  simp only [Failure.isCloseSignal, hne]
  exact ensure_false _ _

/-- Below the limit a message that is relayed lets the series go on, -/
theorem exchangeNumbered_of_relays (hlt : index < limit)
    (h : Relays initiator peer index w w') :
    exchangeNumbered initiator peer limit index w = (.done false, w') := by
  obtain ⟨frame, w₁, text, hs, hr, hf, hm⟩ := h
  unfold exchangeNumbered
  rw [Run.bind_done (sendNumbered_of_passes (.sent hs)), Run.bind_done hr]
  simp only [decide_eq_true hlt]
  rw [Run.bind_done (ensure_true _ _), Run.bind_done (decodeRelay_ok hf _ _),
    Run.bind_done (expectMessage_of_eq hm _ _)]
  rfl

/-- and at the limit a peer that is closed ends it well. -/
theorem exchangeNumbered_of_closes
    (h : Closes initiator peer limit w w') :
    exchangeNumbered initiator peer limit limit w = (.done true, w') := by
  obtain ⟨w₁, r, hp, hr⟩ := h
  unfold exchangeNumbered
  rw [Run.bind_done (sendNumbered_of_passes hp), Run.bind_done hr]
  simp only [beq_self_eq_true]
  rfl

theorem exchangeNumbered_of_waits
    (h : Waits initiator peer limit index w) :
    ∃ w', exchangeNumbered initiator peer limit index w = (.stalled, w') := by
  obtain ⟨w₁, w₂, hp, hr⟩ := h
  unfold exchangeNumbered
  rw [Run.bind_done (sendNumbered_of_passes hp), Run.bind_stalled hr]
  exact ⟨w₂, rfl⟩

/-- Every breach ends the series with its failure. -/
theorem exchangeNumbered_of_breaks {e : Failure}
    (h : Breaks initiator peer limit index w e) :
    ∃ w', exchangeNumbered initiator peer limit index w
      = (.failed e, w') := by
  unfold exchangeNumbered
  -- one case for each way to break, and each stops at a later step
  cases h with
  | sendFails h he =>
      exact ⟨_, Run.bind_failed (sendNumbered_of_fails h he)⟩
  | senderCloses h hlt =>
      exact ⟨_, Run.bind_failed (sendNumbered_of_closes h hlt)⟩
  | receiveFails hp h =>
      rw [Run.bind_done (sendNumbered_of_passes hp), Run.bind_failed h]
      exact ⟨_, rfl⟩
  | closesEarly hp h hlt =>
      have hne : (index == limit) = false := by simp; omega
      rw [Run.bind_done (sendNumbered_of_passes hp), Run.bind_done h]
      simp only [hne]
      rw [Run.bind_failed (ensure_false _ _)]
      exact ⟨_, rfl⟩
  | pastLimit hp h hlimit =>
      subst hlimit
      rw [Run.bind_done (sendNumbered_of_passes hp), Run.bind_done h]
      simp only [Nat.lt_irrefl, decide_false]
      rw [Run.bind_failed (ensure_false _ _)]
      exact ⟨_, rfl⟩
  | undecodable hp h hlt he =>
      rw [Run.bind_done (sendNumbered_of_passes hp), Run.bind_done h]
      simp only [decide_eq_true hlt]
      rw [Run.bind_done (ensure_true _ _),
        Run.bind_failed (decodeRelay_error he _ _)]
      exact ⟨_, rfl⟩
  | altered hp h hlt hf hne =>
      rw [Run.bind_done (sendNumbered_of_passes hp), Run.bind_done h]
      simp only [decide_eq_true hlt]
      rw [Run.bind_done (ensure_true _ _),
        Run.bind_done (decodeRelay_ok hf _ _)]
      exact ⟨_, Run.bind_failed (expectMessage_of_ne hne _ _)⟩

-- ======================================================== every message

/-- What can happen after a message has passed. -/
private theorem read_cases (hle : index ≤ limit)
    (hp : Passes initiator limit index w w₁) :
    (index < limit ∧ ∃ w', Relays initiator peer index w w')
      ∨ ∃ o, Decides initiator peer limit index w o := by
  cases hr : Session.receive peer w₁ with
  | mk o w₂ =>
      cases o with
      | failed e => exact Or.inr ⟨_, .bad (.receiveFails hp hr)⟩
      | stalled => exact Or.inr ⟨_, .never ⟨w₁, w₂, hp, hr⟩⟩
      | done r =>
          rcases Nat.lt_or_eq_of_le hle with hlt | rfl
          · cases r with
            | closed r => exact Or.inr ⟨_, .bad (.closesEarly hp hr hlt)⟩
            | message text =>
                cases hf : RelayFrame.parse text with
                | error e =>
                    exact Or.inr ⟨_, .bad (.undecodable hp hr hlt hf)⟩
                | ok frame =>
                    by_cases hm : frame.message = numbered index
                    · cases hp with
                      | sent hs =>
                          exact Or.inl
                            ⟨hlt, w₂, frame, w₁, text, hs, hr, hf, hm⟩
                      | closed hlimit _ =>
                          -- a close passes at the limit only
                          omega
                    · exact Or.inr ⟨_, .bad (.altered hp hr hlt hf hm)⟩
          · cases r with
            | closed r => exact Or.inr ⟨_, .good rfl ⟨w₁, r, hp, hr⟩⟩
            | message text => exact Or.inr ⟨_, .bad (.pastLimit hp hr rfl)⟩

/-- A message up to the limit is relayed, below it, or decides the
series. -/
theorem exchange_cases (initiator peer : Nat) (hle : index ≤ limit)
    (w : World) :
    (index < limit ∧ ∃ w', Relays initiator peer index w w')
      ∨ ∃ o, Decides initiator peer limit index w o := by
  cases hs : Session.send initiator (numbered index) w with
  | mk o w₁ =>
      cases o with
      | done u => exact read_cases hle (.sent hs)
      | stalled => exact absurd hs (Session.send_not_stalled _)
      | failed e =>
          -- only a close is read differently at the limit and below it
          cases he : e.isCloseSignal with
          | false => exact Or.inr ⟨_, .bad (.sendFails hs he)⟩
          | true =>
              obtain ⟨r, rfl⟩ : ∃ r, e = .closed r := by
                cases e <;> first | exact ⟨_, rfl⟩ | cases he
              rcases Nat.lt_or_eq_of_le hle with hlt | rfl
              · exact Or.inr ⟨_, .bad (.senderCloses hs hlt)⟩
              · exact read_cases (Nat.le_refl _) (.closed rfl hs)

-- =========================================================== the series

/-- A series goes on from a message that was relayed. -/
theorem exchangeFrom_of_relays {left : Nat} (hlt : index < limit)
    (h : Relays initiator peer index w w') :
    exchangeFrom initiator peer limit (left + 1) index w
      = exchangeFrom initiator peer limit left (index + 1) w' := by
  show (exchangeNumbered initiator peer limit index >>= _) w = _
  rw [Run.bind_done (exchangeNumbered_of_relays hlt h)]
  rfl

/-- A series ends where it is decided; a good one leaves the peer
closed. -/
theorem exchangeFrom_of_decides (left : Nat) {o : Outcome Unit}
    (h : Decides initiator peer limit index w o) :
    ∃ w', exchangeFrom initiator peer limit left index w = (o, w')
      ∧ (o = .done () → (w'.session peer).isOver = true) := by
  unfold exchangeFrom
  cases h with
  | @good w' hlimit h =>
      subst hlimit
      rw [Run.bind_done (exchangeNumbered_of_closes h)]
      obtain ⟨w₁, r, -, hr⟩ := h
      exact ⟨w', rfl, fun _ =>
        Session.isOver_of_closed (Session.closed_of_receive hr)⟩
  | bad h =>
      obtain ⟨w', hw⟩ := exchangeNumbered_of_breaks h
      rw [Run.bind_failed hw]
      exact ⟨w', rfl, fun h => by cases h⟩
  | never h =>
      obtain ⟨w', hw⟩ := exchangeNumbered_of_waits h
      rw [Run.bind_stalled hw]
      exact ⟨w', rfl, fun h => by cases h⟩

theorem Relayed.le {next : Nat}
    (h : Relayed initiator peer index next w w') : index ≤ next := by
  induction h with
  | none index w => exact Nat.le_refl _
  | one _ _ ih => omega

/-- So does a series of which some messages are relayed before that. -/
theorem exchangeFrom_of_relayed {next left : Nat} {o : Outcome Unit}
    (hrelayed : Relayed initiator peer index next w w₁)
    (hdecides : Decides initiator peer limit next w₁ o)
    (hle : next ≤ limit) (hleft : left + index = limit) :
    ∃ w', exchangeFrom initiator peer limit left index w = (o, w')
      ∧ (o = .done () → (w'.session peer).isOver = true) := by
  -- on the messages relayed, each of which uses up one that is left
  induction hrelayed generalizing left with
  | none index w => exact exchangeFrom_of_decides left hdecides
  | one h hrest ih =>
      have hnext := hrest.le
      obtain ⟨left, rfl⟩ : ∃ rest, left = rest + 1 := ⟨left - 1, by omega⟩
      rw [exchangeFrom_of_relays (by omega) h]
      exact ih hdecides hle (by omega)

/-- Every series is decided, at the limit at the latest. -/
theorem exists_decides (initiator peer : Nat) {left : Nat}
    (hleft : left + index = limit) (w : World) :
    ∃ next ≤ limit, ∃ w₁ o, Relayed initiator peer index next w w₁
      ∧ Decides initiator peer limit next w₁ o := by
  have hle : index ≤ limit := by omega
  -- on what is left: with nothing left the limit is reached, and there
  -- no message is relayed
  induction left generalizing index w with
  | zero =>
      rcases exchange_cases initiator peer hle w with ⟨hlt, -⟩ | ⟨o, ho⟩
      · omega
      · exact ⟨index, hle, w, o, .none index w, ho⟩
  | succ left ih =>
      rcases exchange_cases initiator peer hle w with ⟨hlt, w₁, h⟩ | ⟨o, ho⟩
      · have hleft' : left + (index + 1) = limit := by omega
        obtain ⟨next, hnext, w₂, o, hrelayed, ho⟩ := ih hleft' w₁ hlt
        exact ⟨next, hnext, w₂, o, .one h hrelayed, ho⟩
      · exact ⟨index, hle, w, o, .none index w, ho⟩

-- ========================================================== the scenario

/-- The scenario ends in what decides its series. -/
theorem maxExchange_of_decides {c : Conditions} {next : Nat}
    {o : Outcome Unit} (hlimit : c.settings.exchangeLimit = .ok limit)
    (hpair : pair c.settings w = (.done (initiator, peer), w₁))
    (hle : next ≤ limit) (hrelayed : Relayed initiator peer 0 next w₁ w₂)
    (hdecides : Decides initiator peer limit next w₂ o) :
    (maxExchange c w).1 = o := by
  obtain ⟨w', hw, hover⟩ :=
    exchangeFrom_of_relayed hrelayed hdecides hle (Nat.add_zero limit)
  unfold maxExchange
  rw [hlimit, Run.bind_done (Run.ofExcept_ok limit w), Run.bind_done hpair]
  show ((exchangeFrom initiator peer limit limit 0 >>= fun _ => _) w₁).1 = o
  cases o with
  | done u =>
      obtain ⟨w'', hw''⟩ := hangUp_done [initiator] w'
      rw [Run.bind_done hw,
        Run.bind_done (expectClosed_of_over (hover rfl) _), hw'']
  | failed e => rw [Run.bind_failed hw]
  | stalled => rw [Run.bind_stalled hw]

/-- Once a channel is paired, the scenario ends in a verdict exactly
when the messages before some number are relayed, one after another and
each as it was sent, and that one decides it. -/
theorem maxExchange_eq_iff {c : Conditions} {o : Outcome Unit}
    (hlimit : c.settings.exchangeLimit = .ok limit)
    (hpair : pair c.settings w = (.done (initiator, peer), w₁)) :
    (maxExchange c w).1 = o
      ↔ ∃ next ≤ limit, ∃ w₂, Relayed initiator peer 0 next w₁ w₂
        ∧ Decides initiator peer limit next w₂ o := by
  constructor
  · intro h
    obtain ⟨next, hle, w₂, o', hrelayed, ho'⟩ :=
      exists_decides initiator peer (Nat.add_zero limit) w₁
    rw [maxExchange_of_decides hlimit hpair hle hrelayed ho'] at h
    subst h
    exact ⟨next, hle, w₂, hrelayed, ho'⟩
  · rintro ⟨next, hle, w₂, hrelayed, ho⟩
    exact maxExchange_of_decides hlimit hpair hle hrelayed ho

/-- The scenario passes exactly when all messages up to the limit are
relayed and the one past it closes the peer. It fails exactly when one
of them breaks after those before it were relayed, with the failure that
tells the breach. It waits for ever exactly when one of them is waited
for in vain. -/
theorem maxExchange_verdict {c : Conditions}
    (hlimit : c.settings.exchangeLimit = .ok limit)
    (hpair : pair c.settings w = (.done (initiator, peer), w₁)) :
    ((maxExchange c w).1 = .done ()
        ↔ ∃ w₂ w₃, Relayed initiator peer 0 limit w₁ w₂
          ∧ Closes initiator peer limit w₂ w₃)
      ∧ (∀ e, (maxExchange c w).1 = .failed e
        ↔ ∃ next ≤ limit, ∃ w₂, Relayed initiator peer 0 next w₁ w₂
          ∧ Breaks initiator peer limit next w₂ e)
      ∧ ((maxExchange c w).1 = .stalled
        ↔ ∃ next ≤ limit, ∃ w₂, Relayed initiator peer 0 next w₁ w₂
          ∧ Waits initiator peer limit next w₂) := by
  refine ⟨?_, fun e => ?_, ?_⟩
  · rw [maxExchange_eq_iff hlimit hpair]
    constructor
    · rintro ⟨next, -, w₂, hrelayed, ⟨rfl, hcloses⟩⟩
      exact ⟨w₂, _, hrelayed, hcloses⟩
    · rintro ⟨w₂, w₃, hrelayed, hcloses⟩
      exact ⟨limit, Nat.le_refl _, w₂, hrelayed, .good rfl hcloses⟩
  · rw [maxExchange_eq_iff hlimit hpair]
    constructor
    · rintro ⟨next, hle, w₂, hrelayed, _ | hbreaks⟩
      exact ⟨next, hle, w₂, hrelayed, hbreaks⟩
    · rintro ⟨next, hle, w₂, hrelayed, hbreaks⟩
      exact ⟨next, hle, w₂, hrelayed, .bad hbreaks⟩
  · rw [maxExchange_eq_iff hlimit hpair]
    constructor
    · rintro ⟨next, hle, w₂, hrelayed, _ | _ | hwaits⟩
      exact ⟨next, hle, w₂, hrelayed, hwaits⟩
    · rintro ⟨next, hle, w₂, hrelayed, hwaits⟩
      exact ⟨next, hle, w₂, hrelayed, .never hwaits⟩

/-- A service that relays one message and answers the next by closing
the peer. -/
def relayingOnce : Service where
  answer _ _ := some .accepted
  refuse _ _ _ := none
  sends
    | .opened _ :: [] => [⟨0, .event (.text "\x7b\"link\":\"/v1/ws/a\"\x7d")⟩]
    | .opened _ :: _ => [⟨1, .event (.text "\x7b\"link\":\"/v1/ws/a\"\x7d")⟩]
    | .wrote 0 (.text "This is message #0") :: _ => [⟨1, .event (.text
        "\x7b\"message\":\"This is message #0\",\"sender\":\x7b\x7d\x7d")⟩]
    | .wrote 0 (.text _) :: _ => [⟨1, .event (.close none)⟩]
    | _ => []

/-- Conditions with a limit of one message. -/
def oneExchange : Conditions where
  settings := { Settings.defaults with maxExchanges := "1" }
  timing := .defaults
  chance := ⟨fun _ => 0, ""⟩

/-- With that service and that limit the scenario passes. -/
theorem maxExchange_passes :
    (maxExchange oneExchange (World.start relayingOnce)).1 = .done () := by
  have hlimit : oneExchange.settings.exchangeLimit = .ok 1 := rfl
  have hpair : pair oneExchange.settings (World.start relayingOnce)
      = (.done (0, 1),
          (pair oneExchange.settings (World.start relayingOnce)).2) := rfl
  generalize hw₁ : (pair oneExchange.settings (World.start relayingOnce)).2
    = w₁ at hpair
  obtain ⟨hpass, -⟩ := maxExchange_verdict hlimit hpair
  subst hw₁
  rw [hpass]
  refine ⟨_, _, .one ⟨⟨"This is message #0", []⟩, _, _, rfl, rfl, rfl, rfl⟩
    (.none _ _), _, _, .sent rfl, rfl⟩

end PairingHarness.Scenario
