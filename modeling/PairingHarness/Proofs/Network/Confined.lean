/-
Runs that open few connections and fail for few reasons.

A run is confined when it opens at most so many connections, whatever
it ends in, and fails, if it does, with one of the kinds that work on
sessions has (`isSessionFailure`). Like the runs that hang up on nobody
they are put together part by part: the bounds add up, and no way of
putting runs together brings in another kind. What the parts on one
session contribute is read off the ends of its operations; opening is
the only one that dials.

The count is of the acts that open, and they are in the world for good,
so it bounds what was tried and not only what succeeded. For the
failures it is the same as for the count: no rule about sequences knows
which kinds there are.
-/
import PairingHarness.Proofs.Network.Attempt
import PairingHarness.Proofs.Network.Course

namespace PairingHarness.Network

variable {α β : Type} {w w₁ w' : World} {conn n m : Nat}

-- ============================================================= one step

/-- The kinds of failure that work on sessions may have. -/
def isSessionFailure : Failure → Bool
  | .handshake _ | .refused _ | .closed _ | .transport _ | .frame _
  | .assertion _ | .io _ => true
  | _ => false

/-- From one world to another at most so many connections are opened. -/
def Opens (n : Nat) (w w' : World) : Prop :=
  ∃ acts, w'.acts = acts ++ w.acts ∧ openings acts ≤ n

/-- Where nothing was done nothing was opened. -/
theorem opens_of_acts (h : w'.acts = w.acts) : Opens 0 w w' :=
  ⟨[], h, Nat.le_refl 0⟩

theorem opens_refl (w : World) : Opens 0 w w :=
  opens_of_acts rfl

theorem Opens.mono (h : Opens n w w') (hle : n ≤ m) : Opens m w w' := by
  obtain ⟨acts, hacts, hopenings⟩ := h
  exact ⟨acts, hacts, hopenings.trans hle⟩

/-- What was opened in two parts was opened in both together. -/
theorem Opens.trans (h : Opens n w w₁) (h' : Opens m w₁ w') :
    Opens (n + m) w w' := by
  obtain ⟨acts, hacts, hopenings⟩ := h
  obtain ⟨later, hlater, hopenings'⟩ := h'
  refine ⟨later ++ acts, ?_, ?_⟩
  · rw [hlater, hacts, List.append_assoc]
  · have hsum : openings (later ++ acts) = openings later + openings acts :=
      List.countP_append
    omega

/-- An act that is no opening. -/
theorem opens_perform {act : Act} (h : openings [act] = 0) (w : World) :
    Opens 0 w (w.perform act) :=
  ⟨[act], World.perform_acts act, Nat.le_of_eq h⟩

/-- What is done to a session is no act. -/
theorem Opens.modify (h : Opens n w w') (conn : Nat)
    (f : Session → Session) : Opens n w (w'.modify conn f) := by
  obtain ⟨acts, hacts, hopenings⟩ := h
  exact ⟨acts, hacts, hopenings⟩

-- ====================================================== putting together

/-- What may come of a run that opens at most so many connections and
fails with the kinds of work on sessions only. -/
inductive Comes (n : Nat) (w : World) : Outcome α × World → Prop where
  | done {w' : World} (h : Opens n w w') (a : α) : Comes n w (.done a, w')
  | failed {w' : World} (h : Opens n w w') {e : Failure}
      (hkind : isSessionFailure e = true) : Comes n w (.failed e, w')
  | stalled {w' : World} (h : Opens n w w') : Comes n w (.stalled, w')

/-- Every start of the run comes to this. -/
def Confined (n : Nat) (r : Run α) : Prop :=
  ∀ w, Comes n w (r w)

variable {r : Run α} {f : α → Run β}

/-- However a run ends, it opened no more than it may. -/
theorem Comes.opens {o : Outcome α} (h : Comes n w (o, w')) :
    Opens n w w' := by
  cases h with
  | done h _ => exact h
  | failed h _ => exact h
  | stalled h => exact h

/-- What was opened before counts as well. -/
theorem Comes.after {result : Outcome α × World} (h : Opens n w w₁)
    (h' : Comes m w₁ result) : Comes (n + m) w result := by
  cases h' with
  | done h' a => exact .done (h.trans h') a
  | failed h' hkind => exact .failed (h.trans h') hkind
  | stalled h' => exact .stalled (h.trans h')

theorem confined_pure (a : α) : Confined 0 (Run.pure a) :=
  fun w => .done (opens_refl w) a

theorem confined_fail {e : Failure} (h : isSessionFailure e = true) :
    Confined 0 (Run.fail e : Run α) :=
  fun w => .failed (opens_refl w) h

theorem confined_stall : Confined 0 (Run.stall : Run α) :=
  fun w => .stalled (opens_refl w)

/-- A change of the world that opens nothing. -/
theorem confined_change {g : World → World} (h : ∀ w, Opens 0 w (g w)) :
    Confined 0 (Run.change g) :=
  fun w => .done (h w) ()

/-- A sequence opens what its parts may open, and fails as one of them does.
-/
theorem confined_bind (h : Confined n r) (hf : ∀ a, Confined m (f a)) :
    Confined (n + m) (r >>= f) := by
  intro w
  have hcomes := h w
  generalize hr : r w = result at hcomes
  cases hcomes with
  | done hopens a =>
      rw [Run.bind_done hr]
      exact (hf a _).after hopens
  | failed hopens hkind =>
      rw [Run.bind_failed hr]
      exact .failed (hopens.mono (Nat.le_add_right n m)) hkind
  | stalled hopens =>
      rw [Run.bind_stalled hr]
      exact .stalled (hopens.mono (Nat.le_add_right n m))

/-- A part that opens nothing comes before the rest. -/
theorem confined_then (h : Confined 0 r) (hf : ∀ a, Confined n (f a)) :
    Confined n (r >>= f) :=
  Nat.zero_add n ▸ confined_bind h hf

/-- A choice is confined where both sides are. -/
theorem confined_ite {p : Prop} [Decidable p] {r' : Run α}
    (h : Confined n r) (h' : Confined n r') :
    Confined n (if p then r else r') := by
  split
  · exact h
  · exact h'

/-- What is attempted does not fail. Whoever goes on with the failure may
still rely on its kind. -/
theorem confined_attempt_bind (h : Confined n r)
    {f : Except Failure α → Run β} (hok : ∀ a, Confined m (f (.ok a)))
    (herror : ∀ e, isSessionFailure e = true → Confined m (f (.error e))) :
    Confined (n + m) (r.attempt >>= f) := by
  intro w
  have hcomes := h w
  generalize hr : r w = result at hcomes
  cases hcomes with
  | done hopens a =>
      rw [Run.bind_done (Run.attempt_done hr)]
      exact (hok a _).after hopens
  | failed hopens hkind =>
      rw [Run.bind_done (Run.attempt_failed hr)]
      exact (herror _ hkind _).after hopens
  | stalled hopens =>
      rw [Run.bind_stalled (Run.attempt_stalled hr)]
      exact .stalled (hopens.mono (Nat.le_add_right n m))

/-- Where the outcome of a run is looked at, both ways on must be confined,
the second only for failures that the run can have. -/
theorem confined_attempt (h : Confined 0 r)
    {f : Except Failure α → Run β} (hok : ∀ a, Confined n (f (.ok a)))
    (herror : ∀ e, isSessionFailure e = true → Confined n (f (.error e))) :
    Confined n (r.attempt >>= f) :=
  Nat.zero_add n ▸ confined_attempt_bind h hok herror

theorem confined_get_bind {f : World → Run β}
    (hf : ∀ w, Confined n (f w)) : Confined n (Run.get >>= f) :=
  fun w => hf w w

theorem confined_pause (ms : Nat) : Confined 0 (Run.pause ms) :=
  confined_change (opens_perform rfl)

-- ======================================================= work on a session

/-- Sending opens nothing and fails as work on a session does. -/
theorem confined_send (conn : Nat) (text : String) :
    Confined 0 (Session.send conn text) := by
  intro w
  cases hclosed : (w.session conn).closed with
  | some reason =>
      rw [Session.send_of_closed hclosed]
      exact .failed (opens_refl w) rfl
  | none =>
      have hends := Session.send_ends hclosed text
      generalize Session.send conn text w = result at hends
      cases hends with
      | sent => exact .done (opens_perform rfl w) ()
      | closes reason => exact .failed ((opens_refl w).modify conn _) rfl
      | fails reason => exact .failed (opens_refl w) rfl

/-- An event fails a read with the failure of a relay frame or of the
transport. -/
theorem failure_of_gives {event : Event} {e : Failure}
    (h : Session.Gives event (.error e)) : isSessionFailure e = true := by
  cases h with
  | notText _ _ => rfl
  | violation _ => rfl

/-- So meeting an event is confined, whichever it is. -/
theorem confined_meet (conn : Nat) (event : Event) :
    Confined 0 (Session.meet conn event) := by
  intro w
  have hends := Session.meet_ends conn event w
  generalize Session.meet conn event w = result at hends
  cases hends with
  | message _ => exact .done (opens_refl w) _
  | fails hgives => exact .failed (opens_refl w) (failure_of_gives hgives)
  | @closes reason _ w₁ hw =>
      have hopens : Opens 0 w w₁ := by
        rcases hw with rfl | ⟨frame, -, rfl⟩
        · exact opens_refl w₁
        · exact opens_perform rfl w
      exact .done (hopens.modify conn _) _

theorem confined_takeEvent (conn : Nat) :
    Confined 0 (Session.takeEvent conn) := by
  intro w
  cases hfirst : Session.firstEvent (w.session conn).inbox with
  | some x =>
      rw [Session.takeEvent_some hfirst]
      exact .done ((opens_refl w).modify conn _) _
  | none =>
      rw [Session.takeEvent_none hfirst]
      exact .done ((opens_refl w).modify conn _) _

/-- And so is a read, with a bound or without, whatever arrives during it.
-/
theorem confined_read (conn : Nat) (wait : Wait) :
    Confined 0 (Session.read conn wait) := by
  have hmeet : ∀ event, Confined 0 (Session.meet conn event
      >>= fun r => (Run.pure (some r) : Run (Option Received))) :=
    fun event => confined_then (confined_meet conn event)
      fun r => confined_pure _
  refine confined_get_bind fun w => ?_
  cases (w.session conn).closed with
  | some reason => exact confined_pure _
  | none =>
      refine confined_then (confined_takeEvent conn) fun event => ?_
      cases event with
      | some event => exact hmeet event
      | none =>
          refine confined_then (confined_change (opens_perform rfl))
            fun _ => ?_
          refine confined_then (confined_takeEvent conn) fun event => ?_
          cases event with
          | some event => exact hmeet event
          | none => exact confined_pure none

/-- A read without a bound. -/
theorem confined_receive (conn : Nat) :
    Confined 0 (Session.receive conn) := by
  refine confined_then (confined_read conn _) fun r => ?_
  cases r with
  | some r => exact confined_pure r
  | none => exact confined_stall

/-- A read with one. -/
theorem confined_receiveWithin (conn ms : Nat) :
    Confined 0 (Session.receiveWithin conn ms) :=
  confined_read conn _

theorem confined_isClosed (conn : Nat) :
    Confined 0 (Session.isClosed conn) :=
  confined_get_bind fun _ => confined_pure _

/-- A close writes and reads, and opens nothing. -/
theorem confined_close (conn : Nat) (reason : String) :
    Confined 0 (Session.close conn reason) := by
  intro w
  cases hover : (w.session conn).isOver with
  | true =>
      rw [Session.close_of_over hover]
      exact .done (opens_refl w) ()
  | false =>
      have hends := Session.close_ends hover reason
      generalize Session.close conn reason w = result at hends
      cases hends with
      | closed => exact .done ((opens_perform rfl w).modify conn _) ()
      | gone r => exact .done ((opens_refl w).modify conn _) ()
      | fails r => exact .failed ((opens_refl w).modify conn _) rfl

-- ============================================================== opening

/-- Registering a session is the one act that opens a connection. -/
theorem opens_register (url target : String) (w : World) :
    Opens 1 w (Session.register url target w) := by
  refine ⟨[.opened target], ?_, Nat.le_refl 1⟩
  unfold Session.register
  exact World.perform_acts _

/-- Dialling opens one connection or none. -/
theorem confined_dial (url : String) : Confined 1 (Session.dial url) := by
  intro w
  have hnone : Opens 1 w w := (opens_refl w).mono (Nat.zero_le 1)
  have hends := Session.dial_ends url w
  generalize Session.dial url w = result at hends
  cases hends with
  | badAddress _ => exact .failed hnone rfl
  | unreachable _ _ => exact .failed hnone rfl
  | accepted _ _ => exact .done (opens_register url _ w) _
  | refused _ _ _ => exact .failed (opens_register url _ w) rfl
  | unfulfilled _ _ => exact .failed (opens_register url _ w) rfl
  | defective _ _ => exact .failed (opens_register url _ w) rfl
  | reset _ _ => exact .failed (opens_register url _ w) rfl

/-- Text that is no handshake fails with that kind. -/
theorem confined_parse (text : String) :
    Confined 0 (Run.ofExcept (Handshake.parse text)) := by
  cases hparse : Handshake.parse text with
  | ok handshake => exact confined_pure handshake
  | error e =>
      have hnot : ∀ handshake, Handshake.parse text ≠ .ok handshake := by
        intro handshake hok
        rw [hparse] at hok
        cases hok
      obtain ⟨reason, hreason⟩ := Handshake.parse_eq_handshake hnot
      rw [hparse] at hreason
      cases hreason
      exact confined_fail rfl

/-- Connecting opens one connection at most, and it does so also where it
fails afterwards. -/
theorem confined_connect (url : String) :
    Confined 1 (Session.connect url) := by
  refine confined_bind (m := 0) (confined_dial url) fun conn => ?_
  refine confined_then (confined_receive conn) fun r => ?_
  cases r with
  | closed reason => exact confined_fail rfl
  | message text =>
      refine confined_then (confined_parse text) fun handshake => ?_
      exact confined_then
        (confined_change fun w => (opens_refl w).modify conn _)
        fun _ => confined_pure _

end PairingHarness.Network
