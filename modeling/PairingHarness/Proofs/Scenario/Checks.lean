/-
The parts that scenarios are made of.

A check passes or fails at once and leaves the world as it is; hanging
up changes the world and cannot fail. What a whole scenario ends in is
computed from these, one step after another, and a scenario that passed
is taken apart by what each of its checks then found.

The lemmas come in pairs, what a check does under its condition and what
its passing says, so that a proof may run a scenario forwards or take
one that passed apart without opening a check. The texts of the failures
are in the first of each pair and nowhere else.
-/
import PairingHarness.Proofs.Network.Session
import PairingHarness.Scenario.Run

namespace PairingHarness.Scenario

open Network

variable {w : World}

-- ============================================================== checks

theorem ensure_true (reason : String) (w : World) :
    ensure true reason w = (.done (), w) := rfl

theorem ensure_false (reason : String) (w : World) :
    ensure false reason w = (.failed (.assertion reason), w) := rfl

theorem decodeRelay_ok {text : String} {frame : RelayFrame}
    (h : RelayFrame.parse text = .ok frame) (what : String) (w : World) :
    decodeRelay text what w = (.done frame, w) := by
  unfold decodeRelay
  rw [h]
  rfl

/-- A text that is no relay frame fails the check with the reason of its
parse. -/
theorem decodeRelay_error {text : String} {e : Failure}
    (h : RelayFrame.parse text = .error e) (what : String) (w : World) :
    decodeRelay text what w
      = (.failed (.assertion (what ++ ": " ++ e.message)), w) := by
  unfold decodeRelay
  rw [h]
  rfl

theorem expectMessage_of_eq {frame : RelayFrame} {expected : String}
    (h : frame.message = expected) (context : String) (w : World) :
    expectMessage frame expected context w = (.done (), w) := by
  unfold expectMessage
  rw [h, beq_self_eq_true]
  rfl

/-- The wrong message fails it with what was expected and what came, in
bytes and in a preview. -/
theorem expectMessage_of_ne {frame : RelayFrame} {expected : String}
    (h : frame.message ≠ expected) (context : String) (w : World) :
    expectMessage frame expected context w
      = (.failed (.assertion (context ++ ": expected "
          ++ toString expected.utf8ByteSize ++ " bytes " ++ preview expected
          ++ ", got " ++ toString frame.message.utf8ByteSize ++ " bytes "
          ++ preview frame.message)), w) := by
  have hfalse : (frame.message == expected) = false := by simpa using h
  unfold expectMessage
  rw [hfalse]
  rfl

theorem expectRelay_of_message {conn : Nat} {text : String}
    {frame : RelayFrame} {w' : World}
    (hr : Session.receive conn w = (.done (.message text), w'))
    (hf : RelayFrame.parse text = .ok frame) (what : String) :
    expectRelay conn what w = (.done frame, w') := by
  unfold expectRelay
  rw [Run.bind_done hr]
  exact decodeRelay_ok hf what w'

/-- A session that is over is what was wanted. -/
theorem expectClosed_of_over {conn : Nat}
    (h : (w.session conn).isOver = true) (reason : String) :
    expectClosed conn reason w = (.done (), w) := by
  unfold expectClosed
  rw [Run.bind_done (Session.isClosed_apply conn w), h]
  rfl

-- ===================================================== checks that passed

/-- A check that passed found its condition to hold and did nothing. -/
theorem ensure_eq_done {condition : Bool} {reason : String} {w' : World}
    (h : ensure condition reason w = (.done (), w')) :
    condition = true ∧ w' = w := by
  cases condition with
  | true =>
      cases h
      exact ⟨rfl, rfl⟩
  | false => cases h

theorem expectMessage_eq_done {frame : RelayFrame} {expected context : String}
    {w' : World}
    (h : expectMessage frame expected context w = (.done (), w')) :
    frame.message = expected ∧ w' = w := by
  obtain ⟨heq, hw⟩ := ensure_eq_done h
  exact ⟨eq_of_beq heq, hw⟩

/-- Where a relay frame was wanted and the check passed, a text came that is
one. -/
theorem expectRelay_eq_done {conn : Nat} {what : String} {frame : RelayFrame}
    {w' : World} (h : expectRelay conn what w = (.done frame, w')) :
    ∃ text, Session.receive conn w = (.done (.message text), w')
      ∧ RelayFrame.parse text = .ok frame := by
  obtain ⟨r, w₁, hr, h⟩ := Run.bind_eq_done h
  cases r with
  | closed reason => cases h
  | message text =>
      cases hparse : RelayFrame.parse text with
      | error e =>
          simp only [decodeRelay_error hparse] at h
          cases h
      | ok frame' =>
          simp only [decodeRelay_ok hparse] at h
          cases h
          exact ⟨text, hr, hparse⟩

-- ========================================================== hanging up

/-- Hanging up closes one session after another, whatever a close comes
to. -/
theorem hangUp_cons {conn : Nat} {o : Outcome Unit} {w₁ : World}
    (h : Session.close conn hangUpReason w = (o, w₁)) (rest : List Nat) :
    hangUp (conn :: rest) w = hangUp rest w₁ := by
  show ((Session.close conn hangUpReason).attempt >>= _) w = _
  cases o with
  | done u => rw [Run.bind_done (Run.attempt_done h)]
  | failed e => rw [Run.bind_done (Run.attempt_failed h)]
  | stalled => exact absurd h (Session.close_not_stalled _)

/-- It passes over every failure. -/
theorem hangUp_done (conns : List Nat) (w : World) :
    ∃ w', hangUp conns w = (.done (), w') := by
  induction conns generalizing w with
  | nil => exact ⟨w, rfl⟩
  | cons conn rest ih =>
      cases hclose : Session.close conn hangUpReason w with
      | mk o w₁ =>
          rw [hangUp_cons hclose]
          exact ih w₁

-- =========================================================== whole runs

/-- The failure of a run is told with the scenario's name. -/
theorem run_fst (c : Conditions) (kind : ScenarioKind) (w : World) :
    (run c kind w).1 = match (play c kind w).1 with
      | .failed e => .failed (.scenarioFailed kind.name e)
      | o => o := by
  unfold run Run.mapFailure
  cases play c kind w with
  | mk o w' => cases o <;> rfl

/-- A run passes when its scenario does. -/
theorem run_eq_done {c : Conditions} {kind : ScenarioKind} {w' : World}
    (h : run c kind w = (.done (), w')) :
    play c kind w = (.done (), w') := by
  unfold run Run.mapFailure at h
  cases hplay : play c kind w with
  | mk o w₁ =>
      rw [hplay] at h
      cases o with
      | done u => exact h
      | failed e => cases h
      | stalled => cases h

/-- A run fails when its scenario does, and the failure names it. -/
theorem run_eq_failed {c : Conditions} {kind : ScenarioKind} {e : Failure}
    {w' : World} (h : run c kind w = (.failed e, w')) :
    ∃ cause, e = .scenarioFailed kind.name cause
      ∧ play c kind w = (.failed cause, w') := by
  unfold run Run.mapFailure at h
  cases hplay : play c kind w with
  | mk o w₁ =>
      rw [hplay] at h
      cases o with
      | done u => cases h
      | failed cause =>
          cases h
          exact ⟨cause, rfl, rfl⟩
      | stalled => cases h

end PairingHarness.Scenario
