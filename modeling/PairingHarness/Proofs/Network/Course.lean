/-
The course of a session: calls on it, one after another, with what each
of them comes back with.

Between two calls the harness may do anything else (`Elsewhere`): act,
work on its other sessions, open more of them. The service may use it
to send more. A call that never comes back, a wait without a bound on a
service that has fallen silent, is not part of any course. The step
facts of this file say what one call does to a session in use
(`read_of_play`, `session_of_play`) and what the rest does to it
(`Elsewhere.session`); the inductions over courses are in the files that
follow it.

The mixture of calls is any mixture: reads with a bound and without
(`receive`, `receive_timeout`), messages, closes and questions whether
the session is over, in any order and number. Claims about a session are
therefore stated once for a course and cover each of the scenarios as
well as every other use of a session.
-/
import PairingHarness.Proofs.Network.Session

namespace PairingHarness.Network

-- ============================================================ the calls

/-- A call of the harness on a session. -/
inductive Call where
  | receive
  | receiveWithin (ms : Nat)
  | send (text : String)
  | close (reason : String)
  deriving DecidableEq, Repr

/-- What a call comes back with. -/
inductive Reply where
  | heard (r : Received)
  /-- Nothing came within the time allowed. -/
  | nothing
  /-- The message is sent, or the session closed. -/
  | fine
  | failed (e : Failure)
  deriving DecidableEq, Repr

/-- A call that comes back with its failure as well as with its value. -/
def answered {α : Type} (f : α → Reply) (r : Run α) : Run Reply := fun w =>
  match r w with
  | (.done a, w) => (.done (f a), w)
  | (.failed e, w) => (.done (.failed e), w)
  | (.stalled, w) => (.stalled, w)

/-- The reply of a bounded wait. -/
def Reply.ofBounded : Option Received → Reply
  | some r => .heard r
  | none => .nothing

/-- Makes a call on a connection. -/
def Call.play (conn : Nat) : Call → Run Reply
  | .receive => answered .heard (Session.receive conn)
  | .receiveWithin ms =>
    answered .ofBounded (Session.receiveWithin conn ms)
  | .send text => answered (fun _ => .fine) (Session.send conn text)
  | .close reason => answered (fun _ => .fine) (Session.close conn reason)

/-- What the harness does besides the calls on a connection. -/
inductive Elsewhere (conn : Nat) (w : World) : World → Prop where
  | acts (act : Act) (h : ∀ frame, act ≠ .wrote conn frame) :
      Elsewhere conn w (w.perform act)
  | changes (other : Nat) (f : Session → Session) (h : other ≠ conn) :
      Elsewhere conn w (w.modify other f)
  | adds (s : Session) (h : conn < w.sessions.length) :
      Elsewhere conn w { w with sessions := w.sessions ++ [s] }

/-- Calls on a connection with their replies, in their order, from one
world to another. -/
inductive Course (conn : Nat) :
    World → List (Call × Reply) → World → Prop where
  | done (w : World) : Course conn w [] w
  | call {w w₁ w' : World} {c : Call} {reply : Reply}
      {calls : List (Call × Reply)} :
      c.play conn w = (.done reply, w₁) → Course conn w₁ calls w' →
      Course conn w ((c, reply) :: calls) w'
  | elsewhere {w w₁ w' : World} {calls : List (Call × Reply)} :
      Elsewhere conn w w₁ → Course conn w₁ calls w' → Course conn w calls w'

variable {w w' : World} {conn : Nat} {reply : Reply}

-- =========================================================== the traffic

/-- The frames written on a connection, latest first. -/
def World.written (w : World) (conn : Nat) : List Outgoing :=
  w.acts.filterMap fun
    | .wrote c frame => if c = conn then some frame else none
    | _ => none

/-- How many connections were opened over all the acts. -/
def openings (acts : List Act) : Nat :=
  acts.countP fun
    | .opened _ => true
    | _ => false

/-- What the service sent on a connection over all the acts, in order. -/
def Service.sent (s : Service) (conn : Nat) : List Act → List Arrival
  | [] => []
  | act :: past => s.sent conn past ++ s.sendsOn conn (act :: past)

/-- What has been sent on a connection so far. -/
def World.sent (w : World) (conn : Nat) : List Arrival :=
  w.service.sent conn w.acts

/-- What the service has sent grows by what it sends in return for an act.
-/
theorem World.sent_perform (act : Act) :
    (w.perform act).sent conn
      = w.sent conn ++ w.service.sendsOn conn (act :: w.acts) := by
  unfold World.sent
  rw [World.perform_service, World.perform_acts]
  rfl

/-- What the harness has written grows by the frames that it writes and
nothing else. -/
theorem World.written_perform {act : Act}
    (h : ∀ frame, act ≠ .wrote conn frame) :
    (w.perform act).written conn = w.written conn := by
  unfold World.written
  rw [World.perform_acts, List.filterMap_cons]
  cases act with
  | wrote c frame =>
      have hc : c ≠ conn := fun hc => h frame (by rw [hc])
      simp only [if_neg hc]
  | opened target => rfl
  | waited wait => rfl

-- ============================================================= elsewhere

/-- The service may send meanwhile. -/
theorem Elsewhere.sent (h : Elsewhere conn w w') :
    ∃ more, w'.sent conn = w.sent conn ++ more := by
  cases h with
  | acts act _ => exact ⟨_, World.sent_perform act⟩
  | changes other f _ => exact ⟨[], (List.append_nil _).symm⟩
  | adds s _ => exact ⟨[], (List.append_nil _).symm⟩

/-- Nothing but what the service sends meanwhile reaches a session from
elsewhere. -/
theorem Elsewhere.session (h : Elsewhere conn w w') :
    ∃ more, w'.session conn
        = { w.session conn with inbox := (w.session conn).inbox ++ more }
      ∧ (conn < w.sessions.length → w'.sent conn = w.sent conn ++ more) := by
  cases h with
  | acts act _ =>
      by_cases hlt : conn < w.sessions.length
      · exact ⟨_, World.session_perform hlt act,
          fun _ => World.sent_perform act⟩
      · refine ⟨[], ?_, fun hlt' => absurd hlt' hlt⟩
        rw [World.session_of_le (by rw [World.perform_length]; omega),
          World.session_of_le (by omega), List.append_nil]
  | changes other f hne =>
      refine ⟨[], ?_, fun _ => (List.append_nil _).symm⟩
      rw [World.session_modify_of_ne hne, List.append_nil]
  | adds s hlt =>
      refine ⟨[], ?_, fun _ => (List.append_nil _).symm⟩
      rw [List.append_nil]
      exact World.session_add_of_ne s (by omega)

/-- Nor is anything written on it. -/
theorem Elsewhere.written (h : Elsewhere conn w w') :
    w'.written conn = w.written conn := by
  cases h with
  | acts act hact => exact World.written_perform hact
  | changes other f _ => rfl
  | adds s _ => rfl

-- ============================================================== one call

/-- A call that waits for ever has no reply. -/
theorem answered_stalled {α : Type} {f : α → Reply} {r : Run α}
    (h : r w = (.stalled, w')) : answered f r w = (.stalled, w') := by
  unfold answered
  rw [h]

/-- One that comes back with a value replies with it, -/
theorem answered_done {α : Type} {f : α → Reply} {r : Run α} {a : α}
    (h : r w = (.done a, w')) : answered f r w = (.done (f a), w') := by
  unfold answered
  rw [h]

/-- and one that fails replies with the failure. -/
theorem answered_failed {α : Type} {f : α → Reply} {r : Run α}
    {e : Failure} (h : r w = (.failed e, w')) :
    answered f r w = (.done (.failed e), w') := by
  unfold answered
  rw [h]

/-- A call that came back did so with its value or its failure. -/
theorem answered_eq_done {α : Type} {f : α → Reply} {r : Run α}
    (h : answered f r w = (.done reply, w')) :
    (∃ a, r w = (.done a, w') ∧ reply = f a)
      ∨ ∃ e, r w = (.failed e, w') ∧ reply = .failed e := by
  unfold answered at h
  cases hr : r w with
  | mk o w₁ =>
      rw [hr] at h
      cases o with
      | done a =>
          cases h
          exact Or.inl ⟨a, rfl, rfl⟩
      | failed e =>
          cases h
          exact Or.inr ⟨e, rfl, rfl⟩
      | stalled => cases h

/-- How a call that reads would wait. -/
def Call.wait? (conn : Nat) : Call → Option Wait
  | .receive => some (.arrival conn)
  | .receiveWithin ms => some (.arrivalWithin conn (max ms Session.minWait))
  | .send _ | .close _ => none

/-- The reply that a read leads to. An unbounded one that gives nothing
leads to none. -/
def Call.replyTo (c : Call) : Outcome (Option Received) → Option Reply
  | .done (some r) => some (.heard r)
  | .done none => if c = .receive then none else some .nothing
  | .failed e => some (.failed e)
  | .stalled => none

/-- A call that reads comes back with the reply that the read leads to,
in the world that the read leaves, or it does not come back. -/
theorem play_of_read {c : Call} {wait : Wait} {o : Outcome (Option Received)}
    (hc : c.wait? conn = some wait)
    (hr : Session.read conn wait w = (o, w')) :
    c.play conn w = ((c.replyTo o).elim .stalled .done, w') := by
  cases c with
  | receive =>
      cases hc
      show answered .heard (Session.receive conn) w = _
      unfold Session.receive
      cases o with
      | done r =>
          cases r with
          | some r => exact answered_done (Run.bind_done hr)
          | none => exact answered_stalled (Run.bind_done hr)
      | failed e => exact answered_failed (Run.bind_failed hr)
      | stalled => exact answered_stalled (Run.bind_stalled hr)
  | receiveWithin ms =>
      cases hc
      show answered .ofBounded (Session.receiveWithin conn ms) w = _
      unfold Session.receiveWithin
      cases o with
      | done r =>
          cases r with
          | some r => exact answered_done hr
          | none => exact answered_done hr
      | failed e => exact answered_failed hr
      | stalled => exact answered_stalled hr
  | send text => cases hc
  | close reason => cases hc

/-- A call that reads and came back read what its reply says. -/
theorem read_of_play {c : Call} {wait : Wait} (hc : c.wait? conn = some wait)
    (h : c.play conn w = (.done reply, w')) :
    ∃ o, Session.read conn wait w = (o, w') ∧ c.replyTo o = some reply := by
  cases hr : Session.read conn wait w with
  | mk o w₁ =>
      rw [play_of_read hc hr] at h
      cases ho : c.replyTo o with
      | none =>
          rw [ho] at h
          cases h
      | some reply' =>
          rw [ho] at h
          cases h
          exact ⟨o, rfl, ho⟩

-- =================================================== the session after

/-- The reason with which the reply to a read or a message tells the end
of the session, if it does. -/
def Call.tells : Call → Reply → Option String
  | .receive, .heard (.closed r) => some r
  | .receiveWithin _, .heard (.closed r) => some r
  | .send _, .failed (.closed r) => some r
  | _, _ => none

/-- The reply to a read tells the end of the session exactly where the read
met it. -/
private theorem tells_of_replyTo {c : Call} {wait : Wait}
    {o : Outcome (Option Received)} (hc : c.wait? conn = some wait)
    (ho : c.replyTo o = some reply) : c.tells reply = Session.endOf o := by
  cases c with
  | send text => cases hc
  | close reason => cases hc
  | receive | receiveWithin ms =>
      cases o with
      | done r => rcases r with _ | ⟨_ | _⟩ <;> cases ho <;> rfl
      | failed e => cases ho; rfl
      | stalled => cases ho

/-- Reads close a session in use when they tell its end and not
otherwise. -/
theorem session_of_play_read {c : Call} {wait : Wait}
    (h : (w.session conn).closed = none) (hc : c.wait? conn = some wait)
    (hplay : c.play conn w = (.done reply, w')) :
    (w'.session conn).closed = c.tells reply
      ∧ (w'.session conn).writable = (w.session conn).writable := by
  obtain ⟨o, hr, ho⟩ := read_of_play hc hplay
  rw [tells_of_replyTo hc ho]
  exact Session.ReadEnds.session h (hr ▸ Session.read_ends h _)

/-- Reads and messages close a session in use when they tell its end and
not otherwise, and they never take away that it can be written to. -/
theorem session_of_play {c : Call} (h : (w.session conn).closed = none)
    (hplay : c.play conn w = (.done reply, w'))
    (hc : ∀ reason, c ≠ .close reason) :
    (w'.session conn).closed = c.tells reply
      ∧ (w'.session conn).writable = (w.session conn).writable := by
  have hlt := World.lt_of_closed_eq_none h
  cases c with
  | receive => exact session_of_play_read h rfl hplay
  | receiveWithin ms => exact session_of_play_read h rfl hplay
  | send text =>
      have hends := Session.send_ends h text
      rcases answered_eq_done hplay with ⟨u, hs, rfl⟩ | ⟨e, hs, rfl⟩
      · rw [hs] at hends
        cases hends
        rw [World.session_perform hlt]
        exact ⟨h, rfl⟩
      · rw [hs] at hends
        cases hends with
        | closes r =>
            rw [World.session_modify hlt]
            exact ⟨rfl, rfl⟩
        | fails r => exact ⟨h, rfl⟩
  | close reason => exact absurd rfl (hc reason)

/-- A close of a session in use closes it when it succeeds; when it
fails the session has no reason and cannot be written to. -/
theorem session_of_play_close {reason : String}
    (h : (w.session conn).closed = none)
    (hw : (w.session conn).writable = true)
    (hplay : (Call.close reason).play conn w = (.done reply, w')) :
    reply = .fine ∧ (∃ r, (w'.session conn).closed = some r)
      ∨ (∃ e, reply = .failed e) ∧ (w'.session conn).closed = none
        ∧ (w'.session conn).writable = false := by
  have hlt := World.lt_of_closed_eq_none h
  have hover : (w.session conn).isOver = false := by
    unfold Session.isOver
    rw [h, hw]
    rfl
  have hends := Session.close_ends hover reason
  rcases answered_eq_done hplay with ⟨u, hs, rfl⟩ | ⟨e, hs, rfl⟩
  · left
    rw [hs] at hends
    cases hends with
    | closed =>
        rw [World.session_modify (by rw [World.perform_length]; exact hlt)]
        exact ⟨rfl, _, rfl⟩
    | gone r =>
        rw [World.session_modify hlt]
        exact ⟨rfl, _, rfl⟩
  · right
    rw [hs] at hends
    cases hends
    rw [World.session_modify hlt]
    exact ⟨⟨_, rfl⟩, h, rfl⟩

end PairingHarness.Network
