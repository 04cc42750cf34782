/-
The form in which a session ends does not change a verdict.

Each scenario reads from its second session, the peer's or the
intruder's, and from nowhere else once the sessions are open. Until it
reads the end there, the runs with two services that differ in that end
are twins. When it does, all that is left to do is settled: the scenario
fails at once, or it finds the session over and hangs up, which cannot
fail (`couples_hangUp`). So the two runs pass, fail or wait for ever
together, whatever the services do on the session after its end
(`verdict_of_sameUntilEnd`), and so too if they go on alike
(`verdict_of_endsOtherwise`).

Failures are not compared, since their texts tell the reason that the
service gave and so the form of the end; and that they are allowed to
differ is why a verdict is passing, failing or waiting and no more. The
proof for each scenario follows its steps and says at each of them
whether the worlds are still twins.
-/
import PairingHarness.Proofs.Network.Parting
import PairingHarness.Proofs.Scenario.MaxExchange
import PairingHarness.Proofs.Scenario.Pairing

namespace PairingHarness.Scenario

open Network

variable {c : Conditions} {kind : ScenarioKind} {s s' : Service}
  {w w' : World} {conn initiator : Nat}

-- ======================================================= the statement

/-- Two runs that both pass, both fail, or both wait for ever. -/
inductive SameVerdict : Outcome Unit → Outcome Unit → Prop where
  | passed : SameVerdict (.done ()) (.done ())
  | failed (e e' : Failure) : SameVerdict (.failed e) (.failed e')
  | stalled : SameVerdict .stalled .stalled

/-- Any failure at all. -/
def AnyFailure (_ : Failure) : Prop :=
  True

/-- Worlds that may stand in any way. -/
def Anyhow (_ : Unit) (_ : World) (_ : Unit) (_ : World) : Prop :=
  True

/-- Worlds in both of which the session is over. -/
def BothStopped (conn : Nat) (_ : Unit) (w : World) (_ : Unit)
    (w' : World) : Prop :=
  BothOver conn w w'

theorem sameVerdict_refl (o : Outcome Unit) : SameVerdict o o := by
  cases o with
  | done u => exact .passed
  | failed e => exact .failed e e
  | stalled => exact .stalled

/-- What couples gives one verdict: the same result, or a failure in both.
-/
theorem verdict_of_couples {breaks : Failure → Prop}
    {stand : Unit → World → Unit → World → Prop}
    {x x' : Outcome Unit × World} (h : Couples conn breaks stand x x') :
    SameVerdict x.1 x'.1 := by
  cases h with
  | together _ => exact sameVerdict_refl _
  | parted _ => exact .passed
  | @broken e e' _ _ _ _ => exact .failed e e'

-- ============================================================ in step

theorem lockstep_ensure (condition : Bool) (reason : String) :
    Lockstep conn (ensure condition reason) := by
  cases condition with
  | true => exact lockstep_pure ()
  | false => exact lockstep_fail _

theorem lockstep_decodeRelay (text what : String) :
    Lockstep conn (decodeRelay text what) := by
  unfold decodeRelay
  cases RelayFrame.parse text with
  | ok frame => exact lockstep_pure frame
  | error e => exact lockstep_fail _

theorem lockstep_expectMessage (frame : RelayFrame)
    (expected context : String) :
    Lockstep conn (expectMessage frame expected context) :=
  lockstep_ensure _ _

theorem lockstep_expectClosed (session : Nat) (reason : String) :
    Lockstep conn (expectClosed session reason) :=
  lockstep_bind (lockstep_isClosed session) fun _ => lockstep_ensure _ _

theorem lockstep_tolerateClose {r : Run Unit} (hr : Lockstep conn r) :
    Lockstep conn (tolerateClose r) := by
  refine lockstep_bind (lockstep_attempt hr) fun x => ?_
  cases x with
  | ok u => exact lockstep_pure ()
  | error e => exact lockstep_ite (lockstep_pure ()) (lockstep_fail e)

theorem lockstep_sendNumbered (hne : initiator ≠ conn) (index limit : Nat) :
    Lockstep conn (sendNumbered initiator index limit) := by
  refine lockstep_bind (lockstep_attempt (lockstep_send hne _)) fun x => ?_
  cases x with
  | ok u => exact lockstep_pure ()
  | error e => exact lockstep_ite (lockstep_ensure _ _) (lockstep_fail e)

theorem lockstep_pause (ms : Nat) : Lockstep conn (Run.pause ms) :=
  lockstep_wait (.pause ms)

/-- The time spent in pauses is the same in both. -/
theorem paused_of_twins (h : Twins conn w w') : w'.paused = w.paused := by
  unfold World.paused
  rw [h.acts]

theorem lockstep_tooLong (startedAt index : Nat) :
    Lockstep conn (Run.get >>= fun w => (Run.fail (.assertion
      ("Connection open too long? " ++ toString (index + 1)
        ++ " exchanges over " ++ Decimal.seconds (w.paused - startedAt)
        ++ "s")) : Run Unit)) :=
  lockstep_get_bind (fun _ _ h => by rw [paused_of_twins h])
    fun _ => lockstep_fail _

-- ============================================== the parts of a scenario

theorem couples_hangUp {breaks : Failure → Prop} (conns : List Nat)
    (w w' : World) :
    Couples conn breaks Anyhow (hangUp conns w) (hangUp conns w') := by
  obtain ⟨w₁, hfirst⟩ := hangUp_done conns w
  obtain ⟨w₁', hsecond⟩ := hangUp_done conns w'
  rw [hfirst, hsecond]
  exact .parted trivial

/-- A scenario that must find the session over checks it and hangs
up. -/
theorem couples_finish (h : Twins conn w w') (reason : String)
    (conns : List Nat) :
    Couples conn AnyFailure Anyhow
      ((expectClosed conn reason >>= fun _ => hangUp conns) w)
      ((expectClosed conn reason >>= fun _ => hangUp conns) w') :=
  couples_then (lockstep_expectClosed conn reason) h
    fun _ _ _ _ _ => couples_hangUp conns _ _

/-- Where the session is over in both runs, the last check passes in both
and only the hanging up is left. -/
theorem couples_finishOver (h : BothOver conn w w') (reason : String)
    (conns : List Nat) :
    Couples conn AnyFailure Anyhow
      ((expectClosed conn reason >>= fun _ => hangUp conns) w)
      ((expectClosed conn reason >>= fun _ => hangUp conns) w') := by
  rw [Run.bind_done (expectClosed_of_over h.1 reason),
    Run.bind_done (expectClosed_of_over h.2 reason)]
  exact couples_hangUp conns w w'

/-- A loop that stopped, on an end that was told or on none, leads to the
same check in both. -/
theorem couples_stops {r : Run Unit} (reason : String) (conns : List Nat)
    (hr : Couples conn AnyFailure (BothStopped conn) (r w) (r w')) :
    Couples conn AnyFailure Anyhow
      ((r >>= fun _ => expectClosed conn reason >>= fun _ => hangUp conns) w)
      ((r >>= fun _ => expectClosed conn reason
        >>= fun _ => hangUp conns) w') :=
  couples_bind hr (fun _ _ _ _ h₁ => couples_finish h₁ _ _)
    fun _ _ _ _ hover => couples_finishOver hover _ _

/-- A session that a scenario needs. -/
theorem couples_opens (url : String) (h : Twins conn w w') :
    Couples conn AnyFailure Never (Session.connect url w)
      (Session.connect url w') :=
  (couples_connect url h).weaken fun _ _ => trivial

/-- A pair, whose peer may be the session that ends. -/
theorem couples_pair (st : Settings) (h : Twins conn w w') :
    Couples conn AnyFailure Never (pair st w) (pair st w') := by
  refine couples_bindNever (couples_opens _ h) fun x w₁ w₁' _ h₁ => ?_
  refine couples_bindNever (couples_opens _ h₁) fun y w₂ w₂' _ h₂ => ?_
  exact .together h₂

/-- A relay frame does not come where the session has ended. -/
theorem couples_expectRelay (what : String) (h : Twins conn w w') :
    Couples conn AnyFailure Never (expectRelay conn what w)
      (expectRelay conn what w') := by
  refine couples_bind (couples_receive h) (fun r w₁ w₁' _ h₁ => ?_)
    fun r r' w₁ w₁' htold => ?_
  · cases r with
    | message text => exact (lockstep_decodeRelay text what).couples h₁
    | closed reason => exact .together h₁
  · rcases htold with ⟨t, t', -⟩
    exact .broken w₁ w₁' trivial trivial

/-- Sending a message on another session and comparing what is relayed
of it. -/
theorem couples_relays {rest : RelayFrame → Run Unit}
    (hne : initiator ≠ conn) (message what context : String)
    (h : Twins conn w w')
    (hrest : ∀ frame w₁ w₁', Twins conn w₁ w₁' →
      Couples conn AnyFailure Anyhow (rest frame w₁) (rest frame w₁')) :
    Couples conn AnyFailure Anyhow
      ((Session.send initiator message >>= fun _ =>
        expectRelay conn what >>= fun frame =>
        expectMessage frame message context >>= fun _ => rest frame) w)
      ((Session.send initiator message >>= fun _ =>
        expectRelay conn what >>= fun frame =>
        expectMessage frame message context >>= fun _ => rest frame) w') := by
  refine couples_then (lockstep_send hne _) h fun _ w₁ w₁' _ h₁ => ?_
  refine couples_bindNever (couples_expectRelay _ h₁)
    fun frame w₂ w₂' _ h₂ => ?_
  exact couples_then (lockstep_expectMessage _ _ _) h₂
    fun _ w₃ w₃' _ h₃ => hrest frame w₃ w₃' h₃

-- ================================================================ loops

/-- What the peer hears after a message. -/
theorem couples_hears {β : Type} {stand : β → World → β → World → Prop}
    (c : Conditions) (x : Except Failure Unit)
    {f : Option Received → Run β} (h : Twins conn w w')
    (hf : ∀ received w₁ w₁', Twins conn w₁ w₁' →
      Couples conn AnyFailure stand (f received w₁) (f received w₁'))
    (htold : ∀ r r' w₁ w₁', BothTold conn r w₁ r' w₁' →
      Couples conn AnyFailure stand (f (some r) w₁) (f (some r') w₁')) :
    Couples conn AnyFailure stand
      ((match x with
        | .ok () => (some <$> Session.receive conn) >>= f
        | .error e =>
          if e.isCloseSignal then
            Session.receiveWithin conn c.timing.closeGrace >>= f
          else Run.fail e >>= f) w)
      ((match x with
        | .ok () => (some <$> Session.receive conn) >>= f
        | .error e =>
          if e.isCloseSignal then
            Session.receiveWithin conn c.timing.closeGrace >>= f
          else Run.fail e >>= f) w') := by
  -- a sent message is answered in both worlds or in neither; a failed send
  -- counts only if it is a close
  cases x with
  | ok u =>
      have hread : Couples conn AnyFailure (BothToldInTime conn)
          ((some <$> Session.receive conn) w)
          ((some <$> Session.receive conn) w') :=
        couples_inTime (couples_receive h)
      refine couples_bind hread (fun received _ _ _ h₁ => hf _ _ _ h₁)
        fun received received' w₁ w₁' hboth => ?_
      rcases hboth with ⟨hboth⟩
      exact htold _ _ w₁ w₁' hboth
  | error e =>
      by_cases hclose : e.isCloseSignal = true
      · simp only [if_pos hclose]
        refine couples_bind (couples_read _ h)
          (fun received w₁ w₁' _ h₁ => hf _ _ _ h₁)
          fun received received' w₁ w₁' hboth => ?_
        rcases hboth with ⟨hboth⟩
        exact htold _ _ w₁ w₁' hboth
      · simp only [if_neg hclose]
        exact .together h

/-- Two exchanges that find the channel closed. -/
inductive BothClosed (conn : Nat) :
    Bool → World → Bool → World → Prop where
  | closed {w w' : World} (h : BothOver conn w w') :
      BothClosed conn true w true w'

/-- Where the end is told, the number of the message decides, and it is
the same in both. -/
theorem couples_exchangeNumbered (hne : initiator ≠ conn)
    (limit index : Nat) (h : Twins conn w w') :
    Couples conn AnyFailure (BothClosed conn)
      (exchangeNumbered initiator conn limit index w)
      (exchangeNumbered initiator conn limit index w') := by
  refine couples_then (lockstep_sendNumbered hne _ _) h
    fun _ w₁ w₁' _ h₁ => ?_
  refine couples_bind (couples_receive h₁) (fun r w₂ w₂' _ h₂ => ?_)
    fun r r' w₂ w₂' htold => ?_
  · refine Lockstep.couples ?_ h₂
    cases r with
    | closed reason =>
        exact lockstep_bind (lockstep_ensure _ _) fun _ => lockstep_pure true
    | message text =>
        refine lockstep_bind (lockstep_ensure _ _) fun _ => ?_
        refine lockstep_bind (lockstep_decodeRelay _ _) fun frame => ?_
        exact lockstep_bind (lockstep_expectMessage _ _ _)
          fun _ => lockstep_pure false
  · rcases htold with ⟨t, t', hover⟩
    show Couples conn AnyFailure (BothClosed conn)
      ((ensure (index == limit) _ >>= fun _ => Run.pure true) w₂)
      ((ensure (index == limit) _ >>= fun _ => Run.pure true) w₂')
    cases index == limit with
    | true => exact .parted (.closed hover)
    | false => exact .broken w₂ w₂' trivial trivial

/-- A loop goes on only as long as the channel is not found closed. -/
theorem couples_unlessClosed {r : Run Bool} {rest : Run Unit}
    (hr : Couples conn AnyFailure (BothClosed conn) (r w) (r w'))
    (hrest : ∀ w₁ w₁', Twins conn w₁ w₁' →
      Couples conn AnyFailure (BothStopped conn) (rest w₁) (rest w₁')) :
    Couples conn AnyFailure (BothStopped conn)
      ((r >>= fun ended =>
        if ended = true then Run.pure () else rest) w)
      ((r >>= fun ended =>
        if ended = true then Run.pure () else rest) w') := by
  refine couples_bind hr (fun ended w₁ w₁' _ h₁ => ?_)
    fun ended ended' w₁ w₁' hclosed => ?_
  · cases ended with
    | true => exact .together h₁
    | false => exact hrest w₁ w₁' h₁
  · rcases hclosed with ⟨hover⟩
    exact .parted hover

/-- A numbered series goes on in both or stops in both, by induction on the
messages that are left. -/
theorem couples_exchangeFrom (hne : initiator ≠ conn) (limit : Nat)
    (left index : Nat) (h : Twins conn w w') :
    Couples conn AnyFailure (BothStopped conn)
      (exchangeFrom initiator conn limit left index w)
      (exchangeFrom initiator conn limit left index w') := by
  induction left generalizing index w w' with
  | zero =>
      exact couples_unlessClosed (couples_exchangeNumbered hne _ _ h)
        fun _ _ h₁ => .together h₁
  | succ left ih =>
      exact couples_unlessClosed (couples_exchangeNumbered hne _ _ h)
        fun _ _ h₁ => ih (index + 1) h₁

/-- What the peer hears after a message, and what is made of it. -/
theorem couples_exchangeOnce (hne : initiator ≠ conn) (index : Nat)
    (h : Twins conn w w') :
    Couples conn AnyFailure (BothClosed conn)
      (exchangeOnce c initiator conn index w)
      (exchangeOnce c initiator conn index w') := by
  refine couples_then (lockstep_attempt (lockstep_send hne _)) h
    fun x w₁ w₁' _ h₁ => ?_
  refine couples_hears c x h₁ (fun received w₂ w₂' h₂ => ?_)
    fun r r' w₂ w₂' htold => ?_
  · refine Lockstep.couples ?_ h₂
    rcases received with _ | text | reason
    · exact lockstep_fail _
    · refine lockstep_bind (lockstep_decodeRelay _ _) fun frame => ?_
      exact lockstep_bind (lockstep_expectMessage _ _ _)
        fun _ => lockstep_pure false
    · exact lockstep_pure true
  · rcases htold with ⟨t, t', hover⟩
    exact .parted (.closed hover)

/-- So does the series at an interval, by induction on the rounds that are
left. -/
theorem couples_exchangeUntilClosed (hne : initiator ≠ conn)
    (startedAt left index : Nat) (h : Twins conn w w') :
    Couples conn AnyFailure (BothStopped conn)
      (exchangeUntilClosed c initiator conn startedAt left index w)
      (exchangeUntilClosed c initiator conn startedAt left index w') := by
  induction left generalizing index w w' with
  | zero =>
      refine couples_unlessClosed (couples_exchangeOnce hne _ h)
        fun w₁ w₁' h₁ => ?_
      exact couples_then (lockstep_pause _) h₁ fun _ _ _ _ h₂ =>
        (lockstep_tooLong startedAt index).couples h₂
  | succ left ih =>
      refine couples_unlessClosed (couples_exchangeOnce hne _ h)
        fun w₁ w₁' h₁ => ?_
      exact couples_then (lockstep_pause _) h₁
        fun _ _ _ _ h₂ => ih (index + 1) h₂

-- ====================================================== each scenario

/-- In a new pair the session that ends is the peer's. -/
theorem peer_of_pair {st : Settings} {x : Nat × Nat} {w₁ : World}
    (hconn : w.sessions.length + 1 = conn)
    (hpair : pair st w = (.done x, w₁)) : x.1 ≠ conn ∧ x.2 = conn := by
  obtain ⟨initiator, peer⟩ := x
  obtain ⟨hinitiator, hpeer, -⟩ := numbers_of_pair hpair
  omega

/-- A scenario that is played by a new pair. -/
theorem couples_withPair {rest : Nat × Nat → Run Unit} {st : Settings}
    (h : Twins conn w w') (hconn : w.sessions.length + 1 = conn)
    (hrest : ∀ initiator w₁ w₁', initiator ≠ conn → Twins conn w₁ w₁' →
      Couples conn AnyFailure Anyhow (rest (initiator, conn) w₁)
        (rest (initiator, conn) w₁')) :
    Couples conn AnyFailure Anyhow ((pair st >>= rest) w)
      ((pair st >>= rest) w') := by
  refine couples_bindNever (couples_pair st h) fun x w₁ w₁' hpair h₁ => ?_
  obtain ⟨hne, hpeer⟩ := peer_of_pair hconn hpair
  obtain ⟨initiator, peer⟩ := x
  subst hpeer
  exact hrest initiator w₁ w₁' hne h₁

theorem couples_simpleRelay (h : Twins conn w w')
    (hconn : w.sessions.length + 1 = conn) :
    Couples conn AnyFailure Anyhow (simpleRelay c w) (simpleRelay c w') := by
  refine couples_withPair h hconn fun initiator w₁ w₁' hne h₁ => ?_
  exact couples_relays hne _ _ _ h₁
    fun _ w₂ w₂' _ => couples_hangUp _ w₂ w₂'

theorem couples_fullExchange (h : Twins conn w w')
    (hconn : w.sessions.length + 1 = conn) :
    Couples conn AnyFailure Anyhow (fullExchange c w)
      (fullExchange c w') := by
  refine couples_withPair h hconn fun initiator w₁ w₁' hne h₁ => ?_
  refine couples_relays hne _ _ _ h₁ fun introFrame w₂ w₂' h₂ => ?_
  refine couples_relays hne _ _ _ h₂ fun frame w₃ w₃' h₃ => ?_
  exact couples_then (lockstep_ensure _ _) h₃
    fun _ w₄ w₄' _ _ => couples_hangUp _ w₄ w₄'

/-- The payload goes out alike, and the one read that decides is told the
end in both or in neither. -/
theorem couples_maxData (h : Twins conn w w')
    (hconn : w.sessions.length + 1 = conn) :
    Couples conn AnyFailure Anyhow (maxData c w) (maxData c w') := by
  refine couples_then (lockstep_ofExcept _) h fun limit w₀ w₀' hlimit h₀ => ?_
  obtain ⟨-, rfl⟩ := Run.ofExcept_eq_done hlimit
  refine couples_withPair h₀ hconn fun initiator w₁ w₁' hne h₁ => ?_
  refine couples_then (lockstep_tolerateClose (lockstep_send hne _)) h₁
    fun _ w₂ w₂' _ h₂ => ?_
  refine couples_then (lockstep_pause _) h₂ fun _ w₃ w₃' _ h₃ => ?_
  refine couples_bind (couples_read _ h₃) (fun heard w₄ w₄' _ h₄ => ?_)
    fun heard heard' w₄ w₄' htold => ?_
  · rcases heard with _ | text | reason
    · exact couples_finish h₄ _ _
    · exact .together h₄
    · exact couples_finish h₄ _ _
  · rcases htold with ⟨⟨t, t', hover⟩⟩
    exact couples_finishOver hover _ _

theorem couples_maxExchange (h : Twins conn w w')
    (hconn : w.sessions.length + 1 = conn) :
    Couples conn AnyFailure Anyhow (maxExchange c w) (maxExchange c w') := by
  refine couples_then (lockstep_ofExcept _) h fun limit w₀ w₀' hlimit h₀ => ?_
  obtain ⟨-, rfl⟩ := Run.ofExcept_eq_done hlimit
  refine couples_withPair h₀ hconn fun initiator w₁ w₁' hne h₁ => ?_
  exact couples_stops _ _ (couples_exchangeFrom hne _ _ _ h₁)

theorem couples_maxPeriod (h : Twins conn w w')
    (hconn : w.sessions.length + 1 = conn) :
    Couples conn AnyFailure Anyhow (maxPeriod c w) (maxPeriod c w') := by
  refine couples_withPair h hconn fun initiator w₁ w₁' hne h₁ => ?_
  refine couples_get_bind (by simp only [paused_of_twins h₁]) ?_
  exact couples_stops _ _ (couples_exchangeUntilClosed hne _ _ _ h₁)

/-- An intruder must be told that it is over. -/
theorem couples_expectIntruderClosed (h : Twins conn w w') :
    Couples conn AnyFailure Anyhow (expectIntruderClosed c conn w)
      (expectIntruderClosed c conn w') := by
  refine couples_bind (couples_read _ h) (fun heard w₁ w₁' _ h₁ => ?_)
    fun heard heard' w₁ w₁' htold => ?_
  · rcases heard with _ | text | reason
    · exact .together h₁
    · exact .together h₁
    · exact (lockstep_expectClosed conn _).couples h₁
  · rcases htold with ⟨⟨t, t', hover⟩⟩
    show Couples conn AnyFailure Anyhow (expectClosed conn _ w₁)
      (expectClosed conn _ w₁')
    rw [expectClosed_of_over hover.1, expectClosed_of_over hover.2]
    exact .parted trivial

/-- It does not matter whether the intruder's session ends before its
handshake or after it. -/
theorem couples_badChannel (h : Twins conn w w')
    (hconn : w.sessions.length + 1 = conn) :
    Couples conn AnyFailure Anyhow (badChannel c w) (badChannel c w') := by
  refine couples_bindNever (couples_opens _ h) fun x w₁ w₁' hfirst h₁ => ?_
  obtain ⟨initiator, handshake⟩ := x
  obtain ⟨hinitiator, hlen⟩ := Session.number_of_connect hfirst
  refine couples_then (lockstep_ensure _ _) h₁ fun _ w₂ w₂' hensure h₂ => ?_
  obtain ⟨-, rfl⟩ := ensure_eq_done hensure
  refine couples_bind (couples_attempt (couples_connect _ h₂))
    (fun attempt w₃ w₃' hattempt h₃ => ?_)
    fun attempt attempt' w₃ w₃' hparted => ?_
  · rcases Run.attempt_eq_done hattempt
      with ⟨⟨intruder, handshake'⟩, hconnect, rfl⟩ | ⟨e, -, rfl⟩
    · obtain ⟨hintruder, -⟩ := Session.number_of_connect hconnect
      have hown : intruder = conn := by omega
      subst hown
      exact couples_bind (couples_expectIntruderClosed h₃)
        (fun _ w₄ w₄' _ _ => couples_hangUp _ w₄ w₄')
        fun _ _ w₄ w₄' _ => couples_hangUp _ w₄ w₄'
    · cases e with
      | closed reason => exact couples_hangUp _ w₃ w₃'
      | refused status => exact couples_hangUp _ w₃ w₃'
      | _ => exact .together h₃
  · cases hparted with
    | ok hnever => exact hnever.elim
    | error _ _ he he' =>
        obtain ⟨t, rfl⟩ := he
        obtain ⟨t', rfl⟩ := he'
        exact couples_hangUp _ w₃ w₃'

/-- Whichever scenario is played. -/
theorem couples_play (h : Twins conn w w')
    (hconn : w.sessions.length + 1 = conn) :
    Couples conn AnyFailure Anyhow (play c kind w) (play c kind w') := by
  cases kind with
  | simpleRelay => exact couples_simpleRelay h hconn
  | fullExchange => exact couples_fullExchange h hconn
  | maxData => exact couples_maxData h hconn
  | maxExchange => exact couples_maxExchange h hconn
  | maxPeriod => exact couples_maxPeriod h hconn
  | badChannel => exact couples_badChannel h hconn

-- ======================================================== the conclusion

/-- A failure is told with the name of the scenario, and that is all. -/
theorem SameVerdict.named
    (h : SameVerdict (play c kind w).1 (play c kind w').1) :
    SameVerdict (run c kind w).1 (run c kind w').1 := by
  rw [run_fst, run_fst]
  generalize (play c kind w).1 = o at h
  generalize (play c kind w').1 = o' at h
  cases h with
  | passed => exact .passed
  | failed e e' => exact .failed _ _
  | stalled => exact .stalled

/-- Two services that are the same until one of them ends the session of
the second connection, and then end it both. -/
theorem verdict_of_sameUntilEnd (h : s.SameUntilEnd 1 s') (c : Conditions)
    (kind : ScenarioKind) :
    SameVerdict (run c kind (World.start s)).1
      (run c kind (World.start s')).1 :=
  (verdict_of_couples (couples_play (twins_start h) rfl)).named

/-- Where a service ends the session of the second connection in another
form, at any points of the exchange and before or after the handshake
frame, each scenario passes, fails or waits for ever as it did. -/
theorem verdict_of_endsOtherwise (h : s.EndsOtherwise 1 s')
    (c : Conditions) (kind : ScenarioKind) :
    SameVerdict (run c kind (World.start s)).1
      (run c kind (World.start s')).1 :=
  verdict_of_sameUntilEnd h.sameUntilEnd c kind

/-- Whether a run passes. -/
def passes : Outcome Unit → Bool
  | .done _ => true
  | _ => false

/-- A run passes with a service that closes the peer with a close frame,
so it passes with the end of the stream in place of the frame. -/
theorem relayingOnce_endingIn :
    relayingOnce.EndsOtherwise 1 (relayingOnce.endingIn 1 .ended)
      ∧ relayingOnce.sends [.wrote 0 (.text "This is message #1")]
        = [⟨1, .event (.close none)⟩]
      ∧ (relayingOnce.endingIn 1 .ended).sends
          [.wrote 0 (.text "This is message #1")] = [⟨1, .event .ended⟩]
      ∧ (run oneExchange .maxExchange (World.start relayingOnce)).1
        = .done ()
      ∧ (run oneExchange .maxExchange
          (World.start (relayingOnce.endingIn 1 .ended))).1 = .done () := by
  have hends : relayingOnce.EndsOtherwise 1 (relayingOnce.endingIn 1 .ended) :=
    endsOtherwise_endingIn ⟨_, .ended⟩ relayingOnce
  have hpasses : passes
      (run oneExchange .maxExchange (World.start relayingOnce)).1 = true := by
    decide +kernel
  have hverdict := verdict_of_endsOtherwise hends oneExchange .maxExchange
  refine ⟨hends, rfl, rfl, ?_⟩
  generalize (run oneExchange .maxExchange (World.start relayingOnce)).1 = o
    at hpasses hverdict ⊢
  generalize (run oneExchange .maxExchange
    (World.start (relayingOnce.endingIn 1 .ended))).1 = o' at hverdict ⊢
  cases hverdict with
  | passed => exact ⟨rfl, rfl⟩
  | failed e e' => cases hpasses
  | stalled => cases hpasses

end PairingHarness.Scenario
