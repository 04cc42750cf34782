/-
The verdict on the lifetime of a channel.

Messages go from the initiator to the peer at an interval, each sent
once the one before it has come, until the channel is found closed. What
happens with a message is looked at through what the peer hears after it
(`Hears`): the message was sent, and the peer waits for what comes, or
its sender was closed, and the peer waits within the grace. In both
cases the peer may hear the message, and the series goes on; it may hear
the end, and the channel is closed as it should be; and everything else
breaks the series, with a failure for each way (`Breaks`). A message
that comes when no other may follow it breaks the series too.

One round is computed from what the peer hears (`exchangeOnce_of_hears`)
and there is nothing that a round can come to besides these
(`round_cases`). The rest is an induction over the messages that came.
It carries the count: what a round leaves is less by one than what was
left before it, so there are never more rounds than the cap allows, and
never fewer than one (`exists_decides`, `loop_of_came`).

There is no clock in it that could be asked: the time that a series
takes is the sum of its pauses, which is what the failure of a channel
that stays open too long is told in. The cap on the rounds follows from
the lifetime and the interval, and is at least one, so a lifetime of
nothing still sends a message.
-/
import PairingHarness.Proofs.Scenario.Pairing

namespace PairingHarness.Scenario.Lifetime

open Network Payload

variable {c : Conditions} {initiator peer startedAt index left : Nat}
  {w w₁ w₂ w' : World}

-- ======================================================= the statement

/-- What the peer hears after a message, and the world after that. -/
inductive Hears (c : Conditions) (initiator peer index : Nat) (w : World) :
    Outcome (Option Received) → World → Prop where
  | sent {w₁ w' : World} {o : Outcome Received}
      (hs : Session.send initiator (numbered index) w = (.done (), w₁))
      (hr : Session.receive peer w₁ = (o, w')) :
      Hears c initiator peer index w (o.map some) w'
  | closed {r : String} {w₁ w' : World} {o : Outcome (Option Received)}
      (hs : Session.send initiator (numbered index) w
        = (.failed (.closed r), w₁))
      (hr : Session.receiveWithin peer c.timing.closeGrace w₁ = (o, w')) :
      Hears c initiator peer index w o w'

/-- The peer hears a message as it was sent, and the interval passes. -/
def Comes (c : Conditions) (initiator peer index : Nat) (w w' : World) :
    Prop :=
  ∃ text frame w₁,
    Hears c initiator peer index w (.done (some (.message text))) w₁
      ∧ RelayFrame.parse text = .ok frame
      ∧ frame.message = numbered index
      ∧ w' = w₁.perform (.waited (.pause c.timing.periodInterval))

/-- The messages from one number up to another, that one left out, come
one after another. -/
inductive Came (c : Conditions) (initiator peer : Nat) :
    (first next : Nat) → World → World → Prop where
  | none (index : Nat) (w : World) : Came c initiator peer index index w w
  | one {index next : Nat} {w w₁ w' : World} :
      Comes c initiator peer index w w₁ →
      Came c initiator peer (index + 1) next w₁ w' →
      Came c initiator peer index next w w'

/-- What can go wrong with a message, and the failure that tells it. -/
inductive Breaks (c : Conditions) (initiator peer startedAt index : Nat)
    (w : World) : Failure → Prop where
  | sendFails {e : Failure} {w' : World}
      (h : Session.send initiator (numbered index) w = (.failed e, w'))
      (he : e.isCloseSignal = false) :
      Breaks c initiator peer startedAt index w e
  | readFails {e : Failure} {w' : World}
      (h : Hears c initiator peer index w (.failed e) w') :
      Breaks c initiator peer startedAt index w e
  | silent {r : String} {w₁ w' : World}
      (hs : Session.send initiator (numbered index) w
        = (.failed (.closed r), w₁))
      (hr : Session.receiveWithin peer c.timing.closeGrace w₁
        = (.done none, w')) :
      Breaks c initiator peer startedAt index w
        (.assertion "Sender was closed but the receiver stayed open")
  | undecodable {text : String} {e : Failure} {w' : World}
      (h : Hears c initiator peer index w (.done (some (.message text))) w')
      (he : RelayFrame.parse text = .error e) :
      Breaks c initiator peer startedAt index w
        (.assertion ("periodic: " ++ e.message))
  | altered {text : String} {frame : RelayFrame} {w' : World}
      (h : Hears c initiator peer index w (.done (some (.message text))) w')
      (hf : RelayFrame.parse text = .ok frame)
      (hne : frame.message ≠ numbered index) :
      Breaks c initiator peer startedAt index w (.assertion
        ("Message #" ++ toString index ++ " failed" ++ ": expected "
          ++ toString (numbered index).utf8ByteSize ++ " bytes "
          ++ preview (numbered index) ++ ", got "
          ++ toString frame.message.utf8ByteSize ++ " bytes "
          ++ preview frame.message))
  /-- The message comes, and no other may follow it. -/
  | capped {w' : World} (h : Comes c initiator peer index w w')
      (hcap : c.timing.periodMaxIterations ≤ index + 1) :
      Breaks c initiator peer startedAt index w (.assertion
        ("Connection open too long? " ++ toString (index + 1)
          ++ " exchanges over " ++ Decimal.seconds (w'.paused - startedAt)
          ++ "s"))

/-- What decides a series at a message, and what the series then ends
in. -/
inductive Decides (c : Conditions) (initiator peer startedAt index : Nat)
    (w : World) : Outcome Unit → Prop where
  | good {r : String} {w' : World}
      (h : Hears c initiator peer index w (.done (some (.closed r))) w') :
      Decides c initiator peer startedAt index w (.done ())
  | bad {e : Failure} (h : Breaks c initiator peer startedAt index w e) :
      Decides c initiator peer startedAt index w (.failed e)
  | never {w' : World} (h : Hears c initiator peer index w .stalled w') :
      Decides c initiator peer startedAt index w .stalled

/-- How many messages there may be: one at least. -/
def cap (c : Conditions) : Nat :=
  max 1 c.timing.periodMaxIterations

-- ============================================================= one round

/-- What a round comes to after what the peer has heard. -/
def judge (index : Nat) : Outcome (Option Received) → Run Bool
  | .done (some (.closed _)) => Run.pure true
  | .done (some (.message text)) => do
    let frame ← decodeRelay text "periodic"
    expectMessage frame (numbered index)
      ("Message #" ++ toString index ++ " failed")
    return false
  | .done none =>
    Run.fail (.assertion "Sender was closed but the receiver stayed open")
  | .failed e => Run.fail e
  | .stalled => Run.stall

theorem judge_message_ok {text : String} {frame : RelayFrame}
    (hf : RelayFrame.parse text = .ok frame)
    (hm : frame.message = numbered index) (w : World) :
    judge index (.done (some (.message text))) w = (.done false, w) := by
  show (decodeRelay text "periodic" >>= _) w = _
  rw [Run.bind_done (decodeRelay_ok hf _ _),
    Run.bind_done (expectMessage_of_eq hm _ _)]
  rfl

theorem judge_message_undecodable {text : String} {e : Failure}
    (he : RelayFrame.parse text = .error e) (w : World) :
    judge index (.done (some (.message text))) w
      = (.failed (.assertion ("periodic: " ++ e.message)), w) :=
  Run.bind_failed (decodeRelay_error he _ _)

/-- A message that is not the one that was sent fails the round, and the
failure tells both. -/
theorem judge_message_altered {text : String} {frame : RelayFrame}
    (hf : RelayFrame.parse text = .ok frame)
    (hm : frame.message ≠ numbered index) (w : World) :
    judge index (.done (some (.message text))) w
      = (.failed (.assertion
          ("Message #" ++ toString index ++ " failed" ++ ": expected "
            ++ toString (numbered index).utf8ByteSize ++ " bytes "
            ++ preview (numbered index) ++ ", got "
            ++ toString frame.message.utf8ByteSize ++ " bytes "
            ++ preview frame.message)), w) := by
  show (decodeRelay text "periodic" >>= _) w = _
  rw [Run.bind_done (decodeRelay_ok hf _ _)]
  exact Run.bind_failed (expectMessage_of_ne hm _ _)

/-- A round comes to what is judged of what the peer hears in it. -/
theorem exchangeOnce_of_hears {o : Outcome (Option Received)}
    (h : Hears c initiator peer index w o w') :
    exchangeOnce c initiator peer index w = judge index o w' := by
  unfold exchangeOnce
  cases h with
  | @sent w₁ w' o hs hr =>
      rw [Run.bind_done (Run.attempt_done hs)]
      have hmap : (some <$> Session.receive peer : Run (Option Received)) w₁
          = (o.map some, w') := by
        rw [Run.map_apply, hr]
      cases o with
      | done r =>
          refine (Run.bind_done hmap).trans ?_
          cases r <;> rfl
      | failed e => exact Run.bind_failed hmap
      | stalled => exact Run.bind_stalled hmap
  | closed hs hr =>
      rw [Run.bind_done (Run.attempt_failed hs)]
      show (Session.receiveWithin peer c.timing.closeGrace >>= _) _ = _
      cases o with
      | done r =>
          rw [Run.bind_done hr]
          rcases r with _ | ⟨_ | _⟩ <;> rfl
      | failed e => exact Run.bind_failed hr
      | stalled => exact Run.bind_stalled hr

theorem exchangeOnce_of_sendFails {e : Failure}
    (h : Session.send initiator (numbered index) w = (.failed e, w'))
    (he : e.isCloseSignal = false) :
    exchangeOnce c initiator peer index w = (.failed e, w') := by
  unfold exchangeOnce
  rw [Run.bind_done (Run.attempt_failed h)]
  simp only [he, Bool.false_eq_true, if_false]
  exact Run.bind_failed rfl

/-- After a message the peer hears something, unless the message could
not be sent. -/
theorem hears_or_sendFails (c : Conditions) (initiator peer index : Nat)
    (w : World) :
    (∃ o w', Hears c initiator peer index w o w')
      ∨ ∃ e w', Session.send initiator (numbered index) w = (.failed e, w')
        ∧ e.isCloseSignal = false := by
  cases hs : Session.send initiator (numbered index) w with
  | mk o w₁ =>
      cases o with
      | done u => exact Or.inl ⟨_, _, .sent hs rfl⟩
      | stalled => exact absurd hs (Session.send_not_stalled _)
      | failed e =>
          cases e with
          | closed r => exact Or.inl ⟨_, _, .closed hs rfl⟩
          | _ => exact Or.inr ⟨_, w₁, rfl, rfl⟩

theorem hears_of_received {r : Received}
    (hs : Session.send initiator (numbered index) w = (.done (), w₁))
    (hr : Session.receive peer w₁ = (.done r, w')) :
    Hears c initiator peer index w (.done (some r)) w' :=
  .sent hs hr

/-- Only within the grace can it be that nothing comes. -/
theorem silent_of_hears (h : Hears c initiator peer index w (.done none) w') :
    ∃ r w₁, Session.send initiator (numbered index) w
        = (.failed (.closed r), w₁)
      ∧ Session.receiveWithin peer c.timing.closeGrace w₁
        = (.done none, w') := by
  generalize ho : (.done none : Outcome (Option Received)) = o at h
  cases h with
  | @sent w₁ w' o hs hr => cases o <;> cases ho
  | closed hs hr =>
      subst ho
      exact ⟨_, _, hs, hr⟩

/-- A peer that hears the end is closed. -/
theorem isOver_of_hears {r : String}
    (h : Hears c initiator peer index w (.done (some (.closed r))) w') :
    (w'.session peer).isOver = true := by
  generalize ho : Outcome.done (some (Received.closed r)) = o at h
  cases h with
  | @sent w₁ w' o hs hr =>
      cases o with
      | done r' =>
          cases ho
          exact Session.isOver_of_closed (Session.closed_of_receive hr)
      | failed e => cases ho
      | stalled => cases ho
  | closed hs hr =>
      subst ho
      exact Session.isOver_of_closed (Session.closed_of_read hr)

/-- A message comes or decides the series. -/
theorem round_cases (c : Conditions) (initiator peer startedAt index : Nat)
    (w : World) :
    (∃ w', Comes c initiator peer index w w')
      ∨ ∃ o, Decides c initiator peer startedAt index w o := by
  rcases hears_or_sendFails c initiator peer index w
    with ⟨o, w', h⟩ | ⟨e, w', h, he⟩
  · cases o with
    | failed e => exact Or.inr ⟨_, .bad (.readFails h)⟩
    | stalled => exact Or.inr ⟨_, .never h⟩
    | done heard =>
        rcases heard with _ | ⟨text | r⟩
        · obtain ⟨r, w₁, hs, hr⟩ := silent_of_hears h
          exact Or.inr ⟨_, .bad (.silent hs hr)⟩
        · cases hf : RelayFrame.parse text with
          | error e => exact Or.inr ⟨_, .bad (.undecodable h hf)⟩
          | ok frame =>
              by_cases hm : frame.message = numbered index
              · exact Or.inl ⟨_, text, frame, w', h, hf, hm, rfl⟩
              · exact Or.inr ⟨_, .bad (.altered h hf hm)⟩
        · exact Or.inr ⟨_, .good h⟩
  · exact Or.inr ⟨_, .bad (.sendFails h he)⟩

-- ================================================== the messages of a round

/-- Whatever the peer hears, one message was sent, or tried to be. -/
theorem sends_of_hears {o : Outcome (Option Received)} (hne : peer ≠ initiator)
    (h : Hears c initiator peer index w o w') :
    Sends initiator w [numbered index] w' := by
  cases h with
  | sent hs hr =>
      exact (sends_of_send hs).append (sends_nil (course_of_receive hne hr))
  | closed hs hr =>
      exact (sends_of_send hs).append (sends_nil (course_of_read hne hr))

theorem sends_of_comes (hne : peer ≠ initiator)
    (h : Comes c initiator peer index w w') :
    Sends initiator w [numbered index] w' := by
  obtain ⟨text, frame, w₁, hhears, -, -, rfl⟩ := h
  exact (sends_of_hears hne hhears).append (sends_nil (course_of_wait _ w₁))

-- ============================================================== the series

/-- A round in which the message came as it was sent lets the series go on.
-/
theorem exchangeOnce_of_heard {text : String} {frame : RelayFrame}
    (h : Hears c initiator peer index w (.done (some (.message text))) w')
    (hf : RelayFrame.parse text = .ok frame)
    (hm : frame.message = numbered index) :
    exchangeOnce c initiator peer index w = (.done false, w') := by
  rw [exchangeOnce_of_hears h]
  exact judge_message_ok hf hm w'

/-- A series goes on from a message that came. -/
theorem loop_of_comes (h : Comes c initiator peer index w w') :
    exchangeUntilClosed c initiator peer startedAt (left + 1) index w
      = exchangeUntilClosed c initiator peer startedAt left (index + 1) w' := by
  obtain ⟨text, frame, w₁, hhears, hf, hm, rfl⟩ := h
  show (exchangeOnce c initiator peer index >>= _) w = _
  rw [Run.bind_done (exchangeOnce_of_heard hhears hf hm)]
  rfl

/-- It breaks off where no message is left. -/
theorem loop_of_last (h : Comes c initiator peer index w w') :
    exchangeUntilClosed c initiator peer startedAt 0 index w
      = (.failed (.assertion
          ("Connection open too long? " ++ toString (index + 1)
            ++ " exchanges over " ++ Decimal.seconds (w'.paused - startedAt)
            ++ "s")), w') := by
  obtain ⟨text, frame, w₁, hhears, hf, hm, rfl⟩ := h
  unfold exchangeUntilClosed
  rw [Run.bind_done (exchangeOnce_of_heard hhears hf hm)]
  rfl

theorem loop_of_failed {e : Failure}
    (h : exchangeOnce c initiator peer index w = (.failed e, w')) :
    exchangeUntilClosed c initiator peer startedAt left index w
      = (.failed e, w') := by
  unfold exchangeUntilClosed
  exact Run.bind_failed h

/-- A round that breaks is the last, and its failure is the scenario's. -/
theorem loop_of_breaks {e : Failure} (hne : peer ≠ initiator)
    (hleft : left + (index + 1) = cap c)
    (h : Breaks c initiator peer startedAt index w e) :
    ∃ w', exchangeUntilClosed c initiator peer startedAt left index w
        = (.failed e, w')
      ∧ Sends initiator w [numbered index] w' := by
  -- in each case the message was sent or tried, and the loop goes no further
  cases h with
  | sendFails h he =>
      exact ⟨_, loop_of_failed (exchangeOnce_of_sendFails h he),
        sends_of_send h⟩
  | readFails h =>
      exact ⟨_, loop_of_failed (exchangeOnce_of_hears h),
        sends_of_hears hne h⟩
  | silent hs hr =>
      exact ⟨_, loop_of_failed (exchangeOnce_of_hears (.closed hs hr)),
        sends_of_hears hne (.closed hs hr)⟩
  | undecodable h he =>
      have honce := (exchangeOnce_of_hears h).trans
        (judge_message_undecodable he _)
      exact ⟨_, loop_of_failed honce, sends_of_hears hne h⟩
  | altered h hf hm =>
      have honce := (exchangeOnce_of_hears h).trans
        (judge_message_altered hf hm _)
      exact ⟨_, loop_of_failed honce, sends_of_hears hne h⟩
  | capped h hcap =>
      obtain rfl : left = 0 := by
        unfold cap at hleft
        omega
      exact ⟨_, loop_of_last h, sends_of_comes hne h⟩

/-- A series ends where it is decided; a good one leaves the peer
closed. -/
theorem loop_of_decides {o : Outcome Unit} (hne : peer ≠ initiator)
    (hleft : left + (index + 1) = cap c)
    (h : Decides c initiator peer startedAt index w o) :
    ∃ w', exchangeUntilClosed c initiator peer startedAt left index w = (o, w')
      ∧ (o = .done () → (w'.session peer).isOver = true)
      ∧ Sends initiator w [numbered index] w' := by
  cases h with
  | good h =>
      refine ⟨_, ?_, fun _ => isOver_of_hears h, sends_of_hears hne h⟩
      unfold exchangeUntilClosed
      rw [Run.bind_done (exchangeOnce_of_hears h)]
      rfl
  | bad h =>
      obtain ⟨w', hloop, hsends⟩ := loop_of_breaks hne hleft h
      exact ⟨w', hloop, (fun hdone => nomatch hdone), hsends⟩
  | never h =>
      refine ⟨_, ?_, (fun hdone => nomatch hdone), sends_of_hears hne h⟩
      unfold exchangeUntilClosed
      exact Run.bind_stalled (exchangeOnce_of_hears h)

theorem Came.le {next : Nat} (h : Came c initiator peer index next w w') :
    index ≤ next := by
  induction h with
  | none index w => exact Nat.le_refl _
  | one _ _ ih => omega

/-- So does a series of which some messages came before that. -/
theorem loop_of_came {next : Nat} {o : Outcome Unit} (hne : peer ≠ initiator)
    (hcame : Came c initiator peer index next w w₁)
    (hdecides : Decides c initiator peer startedAt next w₁ o)
    (hlt : next < cap c) (hleft : left + (index + 1) = cap c) :
    ∃ w', exchangeUntilClosed c initiator peer startedAt left index w = (o, w')
      ∧ (o = .done () → (w'.session peer).isOver = true)
      ∧ Sends initiator w
        ((List.range' index (next + 1 - index)).map numbered) w' := by
  -- on the messages that came, each of which uses up one that is left
  induction hcame generalizing left with
  | none index w =>
      have hone : index + 1 - index = 1 := by omega
      rw [hone]
      exact loop_of_decides hne hleft hdecides
  | @one index next w w₁ w₂ h hrest ih =>
      have hnext := hrest.le
      obtain ⟨left, rfl⟩ : ∃ rest, left = rest + 1 := ⟨left - 1, by omega⟩
      have hleft' : left + (index + 1 + 1) = cap c := by omega
      obtain ⟨w', hloop, hover, hsends⟩ := ih hdecides hlt hleft'
      have hrange : List.range' index (next + 1 - index)
          = index :: List.range' (index + 1) (next + 1 - (index + 1)) := by
        have hsucc : next + 1 - index = next + 1 - (index + 1) + 1 := by omega
        rw [hsucc, List.range'_succ]
      rw [loop_of_comes h, hrange]
      exact ⟨w', hloop, hover, (sends_of_comes hne h).append hsends⟩

/-- Every series is decided, at the cap at the latest. -/
theorem exists_decides (initiator peer startedAt : Nat)
    (hleft : left + (index + 1) = cap c) (w : World) :
    ∃ next < cap c, ∃ w₁ o, Came c initiator peer index next w w₁
      ∧ Decides c initiator peer startedAt next w₁ o := by
  have hlt : index < cap c := by omega
  -- on what is left: with nothing left a message that comes is one too
  -- many
  induction left generalizing index w with
  | zero =>
      rcases round_cases c initiator peer startedAt index w
        with ⟨w', h⟩ | ⟨o, ho⟩
      · have hcap : c.timing.periodMaxIterations ≤ index + 1 := by
          unfold cap at hleft
          omega
        exact ⟨index, hlt, w, _, .none index w, .bad (.capped h hcap)⟩
      · exact ⟨index, hlt, w, o, .none index w, ho⟩
  | succ left ih =>
      rcases round_cases c initiator peer startedAt index w
        with ⟨w₁, h⟩ | ⟨o, ho⟩
      · have hleft' : left + (index + 1 + 1) = cap c := by omega
        obtain ⟨next, hnext, w₂, o, hcame, ho⟩ := ih hleft' w₁ (by omega)
        exact ⟨next, hnext, w₂, o, .one h hcame, ho⟩
      · exact ⟨index, hlt, w, o, .none index w, ho⟩

-- ============================================================ the scenario

/-- The scenario ends in what decides its series, and has then sent the
messages up to that one. -/
theorem maxPeriod_of_decides {next : Nat} {o : Outcome Unit}
    (hpair : pair c.settings w = (.done (initiator, peer), w₁))
    (hlt : next < cap c) (hcame : Came c initiator peer 0 next w₁ w₂)
    (hdecides : Decides c initiator peer w₁.paused next w₂ o) :
    (maxPeriod c w).1 = o
      ∧ Sends initiator w₁ ((List.range (next + 1)).map numbered)
        (maxPeriod c w).2 := by
  have hleft : c.timing.periodMaxIterations - 1 + (0 + 1) = cap c := by
    unfold cap
    omega
  obtain ⟨w', hloop, hover, hsends⟩ :=
    loop_of_came (ne_of_pair hpair) hcame hdecides hlt hleft
  rw [Nat.sub_zero, ← List.range_eq_range'] at hsends
  have hrun : maxPeriod c w
      = (exchangeUntilClosed c initiator peer w₁.paused
          (c.timing.periodMaxIterations - 1) 0
        >>= fun _ => do
          expectClosed peer "Receiver did not close"
          hangUp [initiator]) w₁ := by
    unfold maxPeriod
    rw [Run.bind_done hpair]
    rfl
  rw [hrun]
  -- only an end that was heard leads on, to the peer that must be over and to
  -- the hang-up, which sends nothing
  cases o with
  | failed e =>
      rw [Run.bind_failed hloop]
      exact ⟨rfl, hsends⟩
  | stalled =>
      rw [Run.bind_stalled hloop]
      exact ⟨rfl, hsends⟩
  | done u =>
      rw [Run.bind_done hloop,
        Run.bind_done (expectClosed_of_over (hover rfl) _)]
      obtain ⟨w'', hhangUp⟩ := hangUp_done [initiator] w'
      have hall := hsends.append (sends_of_hangUp hhangUp)
      rw [List.append_nil] at hall
      rw [hhangUp]
      exact ⟨rfl, hall⟩

/-- Once a channel is paired, the scenario ends in a verdict exactly
when the messages before some number come, one after another, and that
one decides it. -/
theorem maxPeriod_eq_iff {o : Outcome Unit}
    (hpair : pair c.settings w = (.done (initiator, peer), w₁)) :
    (maxPeriod c w).1 = o
      ↔ ∃ last < cap c, ∃ w₂, Came c initiator peer 0 last w₁ w₂
        ∧ Decides c initiator peer w₁.paused last w₂ o := by
  -- a deciding exchange always exists, and the outcome it gives is the only
  -- one
  constructor
  · intro h
    have hleft : c.timing.periodMaxIterations - 1 + (0 + 1) = cap c := by
      unfold cap
      omega
    obtain ⟨last, hlt, w₂, o', hcame, ho'⟩ :=
      exists_decides initiator peer w₁.paused hleft w₁
    rw [(maxPeriod_of_decides hpair hlt hcame ho').1] at h
    subst h
    exact ⟨last, hlt, w₂, hcame, ho'⟩
  · intro h
    obtain ⟨last, hlt, w₂, hcame, ho⟩ := h
    exact (maxPeriod_of_decides hpair hlt hcame ho).1

/-- The scenario passes exactly when, within the cap, some messages come
one after another and the peer hears the end at the next. It fails
exactly when, within the cap, one of them breaks the series, with the
failure that tells the breach; it waits for ever exactly when one is
waited for in vain. However it ends, it has sent the messages up to the
one that decides it, or tried to, and no other: their number is within
the cap and fits in 32 bits if the cap does. -/
theorem maxPeriod_verdict
    (hpair : pair c.settings w = (.done (initiator, peer), w₁)) :
    ((maxPeriod c w).1 = .done ()
        ↔ ∃ k < max 1 c.timing.periodMaxIterations, ∃ w₂ r w₃,
          Came c initiator peer 0 k w₁ w₂
            ∧ Hears c initiator peer k w₂ (.done (some (.closed r))) w₃)
      ∧ (∀ e, (maxPeriod c w).1 = .failed e
        ↔ ∃ k < max 1 c.timing.periodMaxIterations, ∃ w₂,
          Came c initiator peer 0 k w₁ w₂
            ∧ Breaks c initiator peer w₁.paused k w₂ e)
      ∧ ((maxPeriod c w).1 = .stalled
        ↔ ∃ k < max 1 c.timing.periodMaxIterations, ∃ w₂ w₃,
          Came c initiator peer 0 k w₁ w₂
            ∧ Hears c initiator peer k w₂ .stalled w₃)
      ∧ ∃ n ≤ max 1 c.timing.periodMaxIterations,
        (c.timing.periodMaxIterations < UInt32.size → n < UInt32.size)
          ∧ (∃ last w₂, n = last + 1 ∧ Came c initiator peer 0 last w₁ w₂
            ∧ Decides c initiator peer w₁.paused last w₂ (maxPeriod c w).1)
          ∧ Sends initiator w₁ ((List.range n).map numbered)
            (maxPeriod c w).2 := by
  -- by kind of decision: a pass, a failure and a wait come from one each
  refine ⟨?_, fun e => ?_, ?_, ?_⟩
  · rw [maxPeriod_eq_iff hpair]
    constructor
    · intro h
      obtain ⟨k, hk, w₂, hcame, hdecides⟩ := h
      cases hdecides with
      | good h => exact ⟨k, hk, w₂, _, _, hcame, h⟩
    · intro h
      obtain ⟨k, hk, w₂, r, w₃, hcame, h⟩ := h
      exact ⟨k, hk, w₂, hcame, .good h⟩
  · rw [maxPeriod_eq_iff hpair]
    constructor
    · intro h
      obtain ⟨k, hk, w₂, hcame, hdecides⟩ := h
      cases hdecides with
      | bad h => exact ⟨k, hk, w₂, hcame, h⟩
    · intro h
      obtain ⟨k, hk, w₂, hcame, h⟩ := h
      exact ⟨k, hk, w₂, hcame, .bad h⟩
  · rw [maxPeriod_eq_iff hpair]
    constructor
    · intro h
      obtain ⟨k, hk, w₂, hcame, hdecides⟩ := h
      cases hdecides with
      | never h => exact ⟨k, hk, w₂, _, hcame, h⟩
    · intro h
      obtain ⟨k, hk, w₂, w₃, hcame, h⟩ := h
      exact ⟨k, hk, w₂, hcame, .never h⟩
  · obtain ⟨last, hlt, w₂, hcame, hdecides⟩ :=
      (maxPeriod_eq_iff hpair).1 (Eq.refl (maxPeriod c w).1)
    have hsends := (maxPeriod_of_decides hpair hlt hcame hdecides).2
    have hle : last + 1 ≤ max 1 c.timing.periodMaxIterations := hlt
    have hone : 1 < UInt32.size := by decide
    refine ⟨last + 1, hle, fun h32 => ?_,
      ⟨last, w₂, rfl, hcame, hdecides⟩, hsends⟩
    omega

/-- A service that relays until the first interval has passed. Then the
initiator is cut off, and the peer is told of the end while it waits. -/
def expiring : Service where
  answer _ _ := some .accepted
  refuse _ _ _ := none
  sends
    | .opened _ :: [] => [⟨0, .event (.text "\x7b\"link\":\"/v1/ws/a\"\x7d")⟩]
    | .opened _ :: _ => [⟨1, .event (.text "\x7b\"link\":\"/v1/ws/a\"\x7d")⟩]
    | .wrote 0 (.text "This is message #0") :: _ => [⟨1, .event (.text
        "\x7b\"message\":\"This is message #0\",\"sender\":\x7b\x7d\x7d")⟩]
    | .waited (.pause _) :: _ => [⟨0, .event .reset⟩]
    | .waited (.arrivalWithin 1 _) :: _ => [⟨1, .ping⟩, ⟨1, .event .ended⟩]
    | _ => []

/-- Conditions with a cap of two messages. -/
def twoRounds : Conditions where
  settings := .defaults
  timing := { Timing.defaults with periodMaxIterations := 2 }
  chance := ⟨fun _ => 0, ""⟩

/-- With that service and that cap the scenario passes. -/
theorem expiring_passes :
    (maxPeriod twoRounds (World.start expiring)).1 = .done () := by
  have hpair : pair twoRounds.settings (World.start expiring)
      = (.done (0, 1),
          (pair twoRounds.settings (World.start expiring)).2) := rfl
  generalize hw₁ : (pair twoRounds.settings (World.start expiring)).2
    = w₁ at hpair
  obtain ⟨hpass, -⟩ := maxPeriod_verdict hpair
  subst hw₁
  rw [hpass]
  exact ⟨1, by decide, _, _, _, .one
    ⟨_, ⟨"This is message #0", []⟩, _, hears_of_received rfl rfl,
      rfl, rfl, rfl⟩ (.none _ _), .closed rfl rfl⟩

end PairingHarness.Scenario.Lifetime
