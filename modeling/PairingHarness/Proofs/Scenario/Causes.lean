/-
Why a scenario fails, and how many connections it opens.

A scenario reads its limit, if it has one, before anything else, and
from then on it only works on sessions: the first is its initiator's,
and a second is opened after that one has its handshake
(`OpensInTurn`). So what follows the first connection opens one more at
most and fails with the kinds of work on sessions (`Confined`), and a
limit that cannot be used is the only other reason to fail, one that
leaves the world as it is (`play_of_invalid`, `turns_of_play`).

That the limit comes first is what keeps a scenario from leaving a
session behind for a value that was wrong from the beginning. The
scenarios are gone through one by one, each by the rules of confined
runs along its own steps, and `play` puts the six together; a seventh
would add one lemma of this kind.
-/
import PairingHarness.Proofs.Network.Confined
import PairingHarness.Proofs.Scenario.Checks

namespace PairingHarness.Scenario

open Network

variable {α β : Type} {c : Conditions} {kind : ScenarioKind}
  {w w₁ w' : World}

-- ======================================================= the statement

/-- An option that its reader cannot use. -/
def isInvalidOption : Failure → Bool
  | .invalidOption _ _ _ => true
  | _ => false

/-- The kinds of failure that a failed scenario may name as its cause. -/
def isCause (e : Failure) : Bool :=
  isInvalidOption e || isSessionFailure e

/-- The limit that a scenario of this kind reads is no number in range. -/
inductive LimitInvalid (s : Settings) : ScenarioKind → Prop where
  | data {e : Failure} (h : s.dataLimit = .error e) : LimitInvalid s .maxData
  | exchanges {e : Failure} (h : s.exchangeLimit = .error e) :
      LimitInvalid s .maxExchange

/-- One connection is opened at most, or a session is opened up to its
handshake first, and one more connection at most after that. -/
def OpensInTurn (w w' : World) : Prop :=
  Opens 1 w w' ∨ ∃ url conn handshake w₁,
    Session.connect url w = (.done (conn, handshake), w₁)
      ∧ Opens 1 w w₁ ∧ Opens 1 w₁ w'

/-- What is opened in turn is two connections at most. -/
theorem OpensInTurn.opens (h : OpensInTurn w w') : Opens 2 w w' := by
  rcases h with hone | ⟨url, conn, handshake, w₁, -, hfirst, hsecond⟩
  · exact hone.mono (Nat.le_succ 1)
  · exact hfirst.trans hsecond

theorem OpensInTurn.more (h : OpensInTurn w w₁) (h' : Opens 0 w₁ w') :
    OpensInTurn w w' := by
  rcases h with hone | ⟨url, conn, handshake, w₂, hconnect, hfirst, hsecond⟩
  · exact .inl (hone.trans h')
  · exact .inr ⟨url, conn, handshake, w₂, hconnect, hfirst,
      hsecond.trans h'⟩

-- ============================================================== checks

theorem confined_ensure (condition : Bool) (reason : String) :
    Confined 0 (ensure condition reason) := by
  cases condition with
  | true => exact confined_pure ()
  | false => exact confined_fail rfl

theorem confined_decodeRelay (text what : String) :
    Confined 0 (decodeRelay text what) := by
  unfold decodeRelay
  cases RelayFrame.parse text with
  | ok frame => exact confined_pure frame
  | error e => exact confined_fail rfl

theorem confined_expectRelay (conn : Nat) (what : String) :
    Confined 0 (expectRelay conn what) := by
  refine confined_then (confined_receive conn) fun r => ?_
  cases r with
  | message text => exact confined_decodeRelay text what
  | closed reason => exact confined_fail rfl

theorem confined_expectMessage (frame : RelayFrame)
    (expected context : String) :
    Confined 0 (expectMessage frame expected context) :=
  confined_ensure _ _

theorem confined_expectClosed (conn : Nat) (reason : String) :
    Confined 0 (expectClosed conn reason) :=
  confined_then (confined_isClosed conn) fun _ => confined_ensure _ _

theorem confined_tolerateClose {r : Run Unit} (h : Confined 0 r) :
    Confined 0 (tolerateClose r) :=
  confined_attempt h (fun _ => confined_pure ())
    fun _ hkind => confined_ite (confined_pure ()) (confined_fail hkind)

/-- Hanging up passes over what a close comes to. -/
theorem confined_hangUp (conns : List Nat) : Confined 0 (hangUp conns) := by
  induction conns with
  | nil => exact confined_pure ()
  | cons conn rest ih =>
      exact confined_attempt (confined_close conn _) (fun _ => ih)
        fun _ _ => ih

-- =============================================================== loops

theorem confined_sendNumbered (initiator index limit : Nat) :
    Confined 0 (sendNumbered initiator index limit) :=
  confined_attempt (confined_send _ _) (fun _ => confined_pure ())
    fun _ hkind =>
      confined_ite (confined_ensure _ _) (confined_fail hkind)

theorem confined_exchangeNumbered (initiator peer limit index : Nat) :
    Confined 0 (exchangeNumbered initiator peer limit index) := by
  refine confined_then (confined_sendNumbered _ _ _) fun _ => ?_
  refine confined_then (confined_receive peer) fun r => ?_
  cases r with
  | closed reason =>
      exact confined_then (confined_ensure _ _) fun _ => confined_pure true
  | message text =>
      refine confined_then (confined_ensure _ _) fun _ => ?_
      refine confined_then (confined_decodeRelay _ _) fun frame => ?_
      exact confined_then (confined_expectMessage _ _ _)
        fun _ => confined_pure false

theorem confined_exchangeFrom (initiator peer limit left index : Nat) :
    Confined 0 (exchangeFrom initiator peer limit left index) := by
  induction left generalizing index with
  | zero =>
      refine confined_then (confined_exchangeNumbered _ _ _ _)
        fun ended => ?_
      cases ended <;> exact confined_pure ()
  | succ left ih =>
      refine confined_then (confined_exchangeNumbered _ _ _ _)
        fun ended => ?_
      cases ended with
      | true => exact confined_pure ()
      | false => exact ih (index + 1)

/-- What is made of what the peer heard. -/
theorem confined_judged (index : Nat) (received : Option Received) :
    Confined 0 (match received with
      | some (.closed _) => (Run.pure true : Run Bool)
      | some (.message text) => do
        let frame ← decodeRelay text "periodic"
        expectMessage frame (Payload.numbered index)
          ("Message #" ++ toString index ++ " failed")
        return false
      | none => Run.fail
          (.assertion "Sender was closed but the receiver stayed open")) := by
  rcases received with _ | text | reason
  · exact confined_fail rfl
  · refine confined_then (confined_decodeRelay _ _) fun frame => ?_
    exact confined_then (confined_expectMessage _ _ _)
      fun _ => confined_pure false
  · exact confined_pure true

theorem confined_exchangeOnce (c : Conditions)
    (initiator peer index : Nat) :
    Confined 0 (exchangeOnce c initiator peer index) := by
  refine confined_attempt (confined_send _ _) (fun _ => ?_)
    fun e hkind => ?_
  · have hmap : Confined 0 (some <$> Session.receive peer) :=
      confined_then (confined_receive peer) fun r => confined_pure (some r)
    exact confined_then hmap (confined_judged index)
  · exact confined_ite
      (confined_then (confined_receiveWithin _ _) (confined_judged index))
      (confined_then (confined_fail hkind) (confined_judged index))

theorem confined_exchangeUntilClosed (c : Conditions)
    (initiator peer startedAt left index : Nat) :
    Confined 0
      (exchangeUntilClosed c initiator peer startedAt left index) := by
  induction left generalizing index with
  | zero =>
      refine confined_then (confined_exchangeOnce _ _ _ _) fun ended => ?_
      cases ended with
      | true => exact confined_pure ()
      | false =>
          refine confined_then (confined_pause _) fun _ => ?_
          exact confined_get_bind fun _ => confined_fail rfl
  | succ left ih =>
      refine confined_then (confined_exchangeOnce _ _ _ _) fun ended => ?_
      cases ended with
      | true => exact confined_pure ()
      | false =>
          exact confined_then (confined_pause _) fun _ => ih (index + 1)

-- ======================================================= whole scenarios

/-- What may come of a run that opens its connections in turn and fails
with the kinds of work on sessions only. -/
structure Turns (w : World) (o : Outcome α) (w' : World) : Prop where
  opens : OpensInTurn w w'
  fails : ∀ e, o = .failed e → isSessionFailure e = true

/-- What follows the first session is work on it and one more. -/
theorem turns_of_connect {url : String} {f : Nat × Handshake → Run β}
    {o : Outcome β} (hf : ∀ x, Confined 1 (f x))
    (h : (Session.connect url >>= f) w = (o, w')) : Turns w o w' := by
  have hcomes := confined_connect url w
  generalize hconnect : Session.connect url w = result at hcomes
  cases hcomes with
  | @done w₁ hfirst x =>
      rw [Run.bind_done hconnect] at h
      have hrest := hf x w₁
      rw [h] at hrest
      refine ⟨.inr ⟨url, x.1, x.2, w₁, hconnect, hfirst, hrest.opens⟩, ?_⟩
      rintro e rfl
      cases hrest with
      | failed _ hkind => exact hkind
  | failed hfirst hkind =>
      rw [Run.bind_failed hconnect] at h
      cases h
      refine ⟨.inl hfirst, fun e he => ?_⟩
      cases he
      exact hkind
  | stalled hfirst =>
      rw [Run.bind_stalled hconnect] at h
      cases h
      exact ⟨.inl hfirst, fun e he => by cases he⟩

/-- What follows a run of this kind may be any work on the sessions that
are there. -/
theorem turns_bind {r : Run α} {f : α → Run β}
    (hr : ∀ {o w₁}, r w = (o, w₁) → Turns w o w₁)
    (hf : ∀ a, Confined 0 (f a)) {o : Outcome β}
    (h : (r >>= f) w = (o, w')) : Turns w o w' := by
  cases hrun : r w with
  | mk o₁ w₁ =>
      obtain ⟨hopens, hfails⟩ := hr hrun
      cases o₁ with
      | done a =>
          rw [Run.bind_done hrun] at h
          have hrest := hf a w₁
          rw [h] at hrest
          refine ⟨hopens.more hrest.opens, ?_⟩
          rintro e rfl
          cases hrest with
          | failed _ hkind => exact hkind
      | failed e =>
          rw [Run.bind_failed hrun] at h
          cases h
          exact ⟨hopens, fun e he => by cases he; exact hfails _ rfl⟩
      | stalled =>
          rw [Run.bind_stalled hrun] at h
          cases h
          exact ⟨hopens, fun e he => by cases he⟩

/-- The peer is dialled once the initiator has its handshake. -/
theorem turns_of_pair {s : Settings} {f : Nat × Nat → Run β}
    (hf : ∀ x, Confined 0 (f x)) {o : Outcome β}
    (h : (pair s >>= f) w = (o, w')) : Turns w o w' := by
  refine turns_bind (fun hpair => turns_of_connect (fun x => ?_) hpair) hf h
  exact confined_bind (m := 0) (confined_connect _) fun y => confined_pure _

/-- The scenarios without a limit take their turns from the start. -/
theorem turns_of_simpleRelay {o : Outcome Unit}
    (h : simpleRelay c w = (o, w')) : Turns w o w' := by
  refine turns_of_pair (fun x => ?_) h
  refine confined_then (confined_send _ _) fun _ => ?_
  refine confined_then (confined_expectRelay _ _) fun frame => ?_
  exact confined_then (confined_expectMessage _ _ _)
    fun _ => confined_hangUp _

theorem turns_of_fullExchange {o : Outcome Unit}
    (h : fullExchange c w = (o, w')) : Turns w o w' := by
  refine turns_of_pair (fun x => ?_) h
  refine confined_then (confined_send _ _) fun _ => ?_
  refine confined_then (confined_expectRelay _ _) fun intro => ?_
  refine confined_then (confined_expectMessage _ _ _) fun _ => ?_
  refine confined_then (confined_send _ _) fun _ => ?_
  refine confined_then (confined_expectRelay _ _) fun frame => ?_
  refine confined_then (confined_expectMessage _ _ _) fun _ => ?_
  exact confined_then (confined_ensure _ _) fun _ => confined_hangUp _

/-- The scenarios with a limit take their turns once it could be read. -/
theorem turns_of_maxData {o : Outcome Unit} {limit : Nat}
    (hlimit : c.settings.dataLimit = .ok limit)
    (h : maxData c w = (o, w')) : Turns w o w' := by
  unfold maxData at h
  rw [hlimit, Run.bind_done (Run.ofExcept_ok limit w)] at h
  refine turns_of_pair (fun x => ?_) h
  refine confined_then (confined_tolerateClose (confined_send _ _))
    fun _ => ?_
  refine confined_then (confined_pause _) fun _ => ?_
  refine confined_then (confined_receiveWithin _ _) fun heard => ?_
  have hend : Confined 0 (do
      expectClosed x.2 "Receiver did not close"
      hangUp [x.1] : Run Unit) :=
    confined_then (confined_expectClosed _ _) fun _ => confined_hangUp _
  rcases heard with _ | text | reason
  · exact hend
  · exact confined_then (confined_fail rfl) fun _ => hend
  · exact hend

theorem turns_of_maxExchange {o : Outcome Unit} {limit : Nat}
    (hlimit : c.settings.exchangeLimit = .ok limit)
    (h : maxExchange c w = (o, w')) : Turns w o w' := by
  unfold maxExchange at h
  rw [hlimit, Run.bind_done (Run.ofExcept_ok limit w)] at h
  refine turns_of_pair (fun x => ?_) h
  refine confined_then (confined_exchangeFrom _ _ _ _ _) fun _ => ?_
  exact confined_then (confined_expectClosed _ _) fun _ => confined_hangUp _

theorem turns_of_maxPeriod {o : Outcome Unit}
    (h : maxPeriod c w = (o, w')) : Turns w o w' := by
  refine turns_of_pair (fun x => ?_) h
  refine confined_get_bind fun w₁ => ?_
  refine confined_then (confined_exchangeUntilClosed _ _ _ _ _ _)
    fun _ => ?_
  exact confined_then (confined_expectClosed _ _) fun _ => confined_hangUp _

theorem confined_expectIntruderClosed (c : Conditions) (intruder : Nat) :
    Confined 0 (expectIntruderClosed c intruder) := by
  refine confined_then (confined_receiveWithin _ _) fun heard => ?_
  rcases heard with _ | text | reason
  · exact confined_fail rfl
  · exact confined_fail rfl
  · exact confined_expectClosed _ _

/-- The intruder's connection is the second one, and no peer is opened
beside it. -/
theorem turns_of_badChannel {o : Outcome Unit}
    (h : badChannel c w = (o, w')) : Turns w o w' := by
  refine turns_of_connect (fun x => ?_) h
  refine confined_then (confined_ensure _ _) fun _ => ?_
  refine confined_attempt_bind (m := 0) (confined_connect _) (fun y => ?_)
    fun e hkind => ?_
  · exact confined_then (confined_expectIntruderClosed _ _)
      fun _ => confined_hangUp _
  · cases e with
    | closed reason =>
        exact confined_then (confined_pure ()) fun _ => confined_hangUp _
    | refused status =>
        exact confined_then (confined_pure ()) fun _ => confined_hangUp _
    | _ => exact confined_then (confined_fail hkind) fun _ => confined_hangUp _

-- ======================================================== the limit first

/-- A numeric option fails as an invalid one. -/
theorem number_error {option : OptionName} {bound : Nat} {raw : String}
    {e : Failure} (h : Settings.number option bound raw = .error e) :
    isInvalidOption e = true := by
  unfold Settings.number at h
  cases hread : Decimal.read bound (Text.trimmed raw.toList) with
  | ok n =>
      simp only [hread] at h
      cases h
  | error fault =>
      simp only [hread] at h
      cases h
      rfl

theorem positive_error {option : OptionName} {bound : Nat} {raw : String}
    {e : Failure} (h : Settings.positive option bound raw = .error e) :
    isInvalidOption e = true := by
  unfold Settings.positive at h
  cases hnumber : Settings.number option bound raw with
  | error fault =>
      simp only [hnumber] at h
      cases h
      exact number_error hnumber
  | ok n =>
      simp only [hnumber] at h
      cases n with
      | zero =>
          cases h
          rfl
      | succ n => cases h

/-- A limit that cannot be used ends the scenario before it does
anything. -/
theorem play_of_invalid (h : LimitInvalid c.settings kind) (w : World) :
    ∃ e, play c kind w = (.failed e, w) ∧ isInvalidOption e = true := by
  have hfails : ∀ e, Run.ofExcept (.error e : Except Failure Nat) w
      = (.failed e, w) := fun e => rfl
  cases h with
  | data h =>
      refine ⟨_, ?_, positive_error h⟩
      show maxData c w = _
      unfold maxData
      rw [h, Run.bind_failed (hfails _)]
  | exchanges h =>
      refine ⟨_, ?_, positive_error h⟩
      show maxExchange c w = _
      unfold maxExchange
      rw [h, Run.bind_failed (hfails _)]

/-- With a limit that can be used, or without any, all is work on
sessions. -/
theorem turns_of_play {o : Outcome Unit}
    (hvalid : ¬LimitInvalid c.settings kind)
    (h : play c kind w = (o, w')) : Turns w o w' := by
  cases kind with
  | simpleRelay => exact turns_of_simpleRelay h
  | fullExchange => exact turns_of_fullExchange h
  | maxData =>
      cases hlimit : c.settings.dataLimit with
      | error e => exact absurd (.data hlimit) hvalid
      | ok limit => exact turns_of_maxData hlimit h
  | maxExchange =>
      cases hlimit : c.settings.exchangeLimit with
      | error e => exact absurd (.exchanges hlimit) hvalid
      | ok limit => exact turns_of_maxExchange hlimit h
  | maxPeriod => exact turns_of_maxPeriod h
  | badChannel => exact turns_of_badChannel h

theorem not_invalidOption {e : Failure} (h : isSessionFailure e = true) :
    isInvalidOption e = false := by
  cases e with
  | invalidOption name value reason => cases h
  | _ => rfl

/-- A scenario that fails does so for a cause of these kinds, and for an
option exactly where its limit cannot be used. -/
theorem cause_of_play {e : Failure} (h : play c kind w = (.failed e, w')) :
    isCause e = true
      ∧ (isInvalidOption e = true ↔ LimitInvalid c.settings kind) := by
  unfold isCause
  by_cases hinvalid : LimitInvalid c.settings kind
  · obtain ⟨e', hplay, hkind⟩ := play_of_invalid hinvalid w
    rw [h] at hplay
    cases hplay
    rw [hkind]
    exact ⟨rfl, fun _ => hinvalid, fun _ => rfl⟩
  · have hkind := (turns_of_play hinvalid h).fails e rfl
    rw [not_invalidOption hkind, hkind]
    exact ⟨rfl, fun hfalse => (by cases hfalse),
      fun h => absurd h hinvalid⟩

/-- A scenario opens its connections in turn, however it ends. -/
theorem opensInTurn_of_play (c : Conditions) (kind : ScenarioKind)
    (w : World) : OpensInTurn w (play c kind w).2 := by
  by_cases hinvalid : LimitInvalid c.settings kind
  · obtain ⟨e, hplay, -⟩ := play_of_invalid hinvalid w
    rw [hplay]
    exact .inl ((opens_refl w).mono (Nat.zero_le 1))
  · exact (turns_of_play hinvalid rfl).opens

end PairingHarness.Scenario
