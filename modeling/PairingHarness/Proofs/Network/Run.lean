/-
How a sequence of runs ends.

A sequence ends as its first part does unless that part ends in a
value; then it goes on from the world that the part left. The facts
come in two directions: forwards they compute a sequence whose first
part is known, backwards they take the end of a sequence apart. Proofs
about the harness go through these and leave the definition of a
sequence closed.

There are three ways to end and not two: a run that waits for ever on a
service that has fallen silent is an outcome of its own, so that a
statement about what a run comes to also says when it comes to nothing.
-/
import PairingHarness.Network.World

namespace PairingHarness.Network.Run

variable {α β : Type} {r : Run α} {f : α → Run β} {w w₁ w' : World}

-- ============================================================== forwards

theorem ofExcept_ok (a : α) (w : World) :
    ofExcept (.ok a) w = (.done a, w) := rfl

/-- After a value the sequence goes on. -/
theorem bind_done {a : α} (h : r w = (.done a, w₁)) :
    (r >>= f) w = f a w₁ := by
  show Run.bind r f w = _
  unfold Run.bind
  rw [h]

/-- After a failure nothing comes. -/
theorem bind_failed {e : Failure} (h : r w = (.failed e, w₁)) :
    (r >>= f) w = (.failed e, w₁) := by
  show Run.bind r f w = _
  unfold Run.bind
  rw [h]

/-- After a wait that never ends nothing comes. -/
theorem bind_stalled (h : r w = (.stalled, w₁)) :
    (r >>= f) w = (.stalled, w₁) := by
  show Run.bind r f w = _
  unfold Run.bind
  rw [h]

/-- Looking at the world changes nothing. -/
@[simp] theorem get_bind (f : World → Run β) (w : World) :
    (get >>= f) w = f w w := rfl

/-- A change of the world is seen by what follows. -/
@[simp] theorem change_bind (g : World → World) (f : Unit → Run β)
    (w : World) : (change g >>= f) w = f () (g w) := rfl

/-- A mapped run ends as the run does, with its value mapped. -/
theorem map_apply (g : α → β) (r : Run α) (w : World) :
    (g <$> r) w = ((r w).1.map g, (r w).2) := by
  show Run.bind r (fun a => Run.pure (g a)) w = _
  unfold Run.bind
  cases r w with
  | mk o w₁ => cases o <;> rfl

/-- An attempt gives the value of a run that ends in one, -/
theorem attempt_done {a : α} (h : r w = (.done a, w₁)) :
    r.attempt w = (.done (.ok a), w₁) := by
  unfold attempt
  rw [h]

/-- the failure of one that fails, -/
theorem attempt_failed {e : Failure} (h : r w = (.failed e, w₁)) :
    r.attempt w = (.done (.error e), w₁) := by
  unfold attempt
  rw [h]

/-- and nothing where the run waits for ever. -/
theorem attempt_stalled (h : r w = (.stalled, w₁)) :
    r.attempt w = (.stalled, w₁) := by
  unfold attempt
  rw [h]

-- ============================================================= backwards

/-- What a run ends in and where it ends. -/
theorem eq_of_fst {o : Outcome α} (h : (r w).1 = o) :
    ∃ w', r w = (o, w') :=
  ⟨(r w).2, Prod.ext h rfl⟩

/-- Lifting a result leaves the world alone. -/
theorem ofExcept_eq_done {x : Except Failure α} {a : α}
    (h : ofExcept x w = (.done a, w')) : x = .ok a ∧ w' = w := by
  cases x with
  | ok b =>
      cases h
      exact ⟨rfl, rfl⟩
  | error e => cases h

/-- An attempt ends in what the run ended in. -/
theorem attempt_eq_done {x : Except Failure α}
    (h : attempt r w = (.done x, w')) :
    (∃ a, r w = (.done a, w') ∧ x = .ok a)
      ∨ ∃ e, r w = (.failed e, w') ∧ x = .error e := by
  unfold attempt at h
  cases hr : r w with
  | mk o w₁ =>
      rw [hr] at h
      cases o with
      | done a =>
          cases h
          exact Or.inl ⟨a, rfl, rfl⟩
      | failed e =>
          cases h
          exact Or.inr ⟨e, rfl, rfl⟩
      | stalled => cases h

/-- A sequence ends in a value when both parts do. -/
theorem bind_eq_done {b : β} (h : (r >>= f) w = (.done b, w')) :
    ∃ a w₁, r w = (.done a, w₁) ∧ f a w₁ = (.done b, w') := by
  cases hr : r w with
  | mk o w₁ =>
      cases o with
      | done a =>
          rw [bind_done hr] at h
          exact ⟨a, w₁, rfl, h⟩
      | failed e =>
          rw [bind_failed hr] at h
          cases h
      | stalled =>
          rw [bind_stalled hr] at h
          cases h

/-- A sequence fails when its first part does, or its second. -/
theorem bind_eq_failed {e : Failure} (h : (r >>= f) w = (.failed e, w')) :
    r w = (.failed e, w')
      ∨ ∃ a w₁, r w = (.done a, w₁) ∧ f a w₁ = (.failed e, w') := by
  cases hr : r w with
  | mk o w₁ =>
      cases o with
      | done a =>
          rw [bind_done hr] at h
          exact Or.inr ⟨a, w₁, rfl, h⟩
      | failed e' =>
          rw [bind_failed hr] at h
          cases h
          exact Or.inl rfl
      | stalled =>
          rw [bind_stalled hr] at h
          cases h

end PairingHarness.Network.Run
