/-
What each operation on a session does.

Every operation is described once: what it ends in and which world it
leaves, by cases on what the session looks like. A session is looked at
through `World.session`; the first section says how that view follows
the changes a world can undergo, and nothing after it opens the list of
sessions. A wait and a written frame change a session in one way only:
what the service sends in return goes to the end of its inbox.

A closed session is dead to every operation: reads and writes give the
reason, a close does nothing, and the world stays as it is to the last
frame in flight (`read_of_closed`, `send_of_closed`, `close_of_over`).

Operations that a service can make fail are relations and not equations
(`SendEnds`, `CloseEnds`, `MeetEnds`, `ReadEnds`): each constructor is a
way to end with its condition and its world, and the theorem beside it
says that there is no other. Larger proofs take a run apart by cases on
these and never unfold the operation.
-/
import PairingHarness.Network.Session
import PairingHarness.Proofs.Network.Run
import PairingHarness.Proofs.Text.Utf8

namespace PairingHarness.Network

-- ========================================================= the view

/-- What the service sends on a connection in return for the latest of
the acts. -/
def Service.sendsOn (s : Service) (conn : Nat) (acts : List Act) :
    List Arrival :=
  ((s.sends acts).filter fun d => d.conn = conn).map Delivery.arrival

namespace World

variable {w : World} {conn : Nat}

/-- A session that was not opened is absent. -/
theorem session_of_le (h : w.sessions.length ≤ conn) :
    w.session conn = .absent := by
  unfold session
  rw [List.getD_eq_getElem?_getD, List.getElem?_eq_none h]
  rfl

/-- The stand-in for a session that was never opened is closed, so a
session that is not closed was opened. -/
theorem lt_of_closed_eq_none (h : (w.session conn).closed = none) :
    conn < w.sessions.length := by
  by_cases hlt : conn < w.sessions.length
  · exact hlt
  · rw [session_of_le (by omega)] at h
    cases h

/-- A change is seen on the session that was changed. -/
theorem session_modify (hlt : conn < w.sessions.length)
    (f : Session → Session) :
    (w.modify conn f).session conn = f (w.session conn) := by
  show (w.sessions.modify conn f).getD conn .absent
    = f (w.sessions.getD conn .absent)
  rw [List.getD_eq_getElem?_getD, List.getD_eq_getElem?_getD,
    List.getElem?_modify_eq, List.getElem?_eq_getElem hlt]
  rfl

/-- A change of another session is not seen. -/
theorem session_modify_of_ne {other : Nat} (hne : other ≠ conn)
    (f : Session → Session) :
    (w.modify other f).session conn = w.session conn := by
  show (w.sessions.modify other f).getD conn .absent
    = w.sessions.getD conn .absent
  rw [List.getD_eq_getElem?_getD, List.getD_eq_getElem?_getD,
    List.getElem?_modify_ne _ _ hne]

/-- A session that is added has the next number. -/
theorem session_add (s : Session) (w : World) :
    ({ w with sessions := w.sessions ++ [s] } : World).session
      w.sessions.length = s := by
  show (w.sessions ++ [s]).getD w.sessions.length .absent = s
  rw [List.getD_eq_getElem?_getD, List.getElem?_append_right (Nat.le_refl _),
    Nat.sub_self]
  rfl

/-- Adding it is not seen on the others. -/
theorem session_add_of_ne (s : Session) (hne : conn ≠ w.sessions.length) :
    ({ w with sessions := w.sessions ++ [s] } : World).session conn
      = w.session conn := by
  show (w.sessions ++ [s]).getD conn .absent = w.sessions.getD conn .absent
  rw [List.getD_eq_getElem?_getD, List.getD_eq_getElem?_getD]
  by_cases hlt : conn < w.sessions.length
  · rw [List.getElem?_append_left hlt]
  · rw [List.getElem?_eq_none (by simp; omega),
      List.getElem?_eq_none (by omega)]

/-- A change of a session that does not exist is none. -/
theorem modify_of_le (h : w.sessions.length ≤ conn) (f : Session → Session) :
    w.modify conn f = w := by
  unfold modify
  rw [List.modify_eq_self h]

@[simp] theorem modify_length (f : Session → Session) :
    (w.modify conn f).sessions.length = w.sessions.length := by
  unfold modify
  rw [List.length_modify]

/-- A delivery changes nothing but the end of the inbox it names. -/
theorem session_deliver (hlt : conn < w.sessions.length) (d : Delivery) :
    (w.deliver d).session conn
      = { w.session conn with
          inbox := (w.session conn).inbox
            ++ if d.conn = conn then [d.arrival] else [] } := by
  unfold deliver
  by_cases hc : d.conn = conn
  · subst hc
    rw [session_modify hlt, if_pos rfl]
  · rw [session_modify_of_ne hc, if_neg hc, List.append_nil]

/-- Deliveries one after another, seen on one session. -/
theorem session_foldl_deliver (ds : List Delivery) :
    ∀ {w : World}, conn < w.sessions.length →
      (ds.foldl deliver w).session conn
        = { w.session conn with
            inbox := (w.session conn).inbox
              ++ (ds.filter fun d => d.conn = conn).map Delivery.arrival } := by
  induction ds with
  | nil =>
      intro w _
      simp
  | cons d ds ih =>
      intro w hlt
      have hlt' : conn < (w.deliver d).sessions.length := by
        unfold deliver
        rw [modify_length]
        exact hlt
      rw [List.foldl_cons, ih hlt', session_deliver hlt]
      by_cases hc : d.conn = conn
      · simp [hc]
      · simp [hc]

/-- Deliveries change inboxes and nothing else. -/
private theorem foldl_deliver_frame (ds : List Delivery) :
    ∀ w : World, (ds.foldl deliver w).acts = w.acts
      ∧ (ds.foldl deliver w).service = w.service
      ∧ (ds.foldl deliver w).sessions.length = w.sessions.length := by
  induction ds with
  | nil => exact fun w => ⟨rfl, rfl, rfl⟩
  | cons d ds ih =>
      intro w
      obtain ⟨ha, hs, hl⟩ := ih (w.deliver d)
      refine ⟨ha, hs, ?_⟩
      rw [List.foldl_cons, hl]
      unfold deliver
      exact modify_length _

/-- What the service sends in return for an act goes to the end of the
inbox, and nothing else of the session changes. -/
theorem session_perform (hlt : conn < w.sessions.length) (act : Act) :
    (w.perform act).session conn
      = { w.session conn with
          inbox := (w.session conn).inbox
            ++ w.service.sendsOn conn (act :: w.acts) } := by
  unfold perform Service.sendsOn
  exact session_foldl_deliver (w := { w with acts := act :: w.acts }) _ hlt

@[simp] theorem perform_acts (act : Act) :
    (w.perform act).acts = act :: w.acts :=
  (foldl_deliver_frame _ _).1

@[simp] theorem perform_service (act : Act) :
    (w.perform act).service = w.service :=
  (foldl_deliver_frame _ _).2.1

@[simp] theorem perform_length (act : Act) :
    (w.perform act).sessions.length = w.sessions.length :=
  (foldl_deliver_frame _ _).2.2

end World
namespace Session

variable {w w' : World} {conn : Nat}

-- ====================================================== closed sessions

/-- A read of a closed session gives the reason and touches nothing, with a
bound as without one. -/
theorem read_of_closed {r : String}
    (h : (w.session conn).closed = some r) (wait : Wait) :
    read conn wait w = (.done (some (.closed r)), w) := by
  unfold read
  rw [Run.get_bind, h]
  rfl

/-- The same for a read without a bound. -/
theorem receive_of_closed {r : String}
    (h : (w.session conn).closed = some r) :
    receive conn w = (.done (.closed r), w) := by
  unfold receive
  rw [Run.bind_done (read_of_closed h _)]
  rfl

/-- A message on a closed session fails with the reason. -/
theorem send_of_closed {r : String}
    (h : (w.session conn).closed = some r) (text : String) :
    send conn text w = (.failed (.closed r), w) := by
  unfold send
  rw [Run.get_bind]
  simp only [h]
  rfl

/-- Asking whether a session is over changes nothing (`is_closed`). -/
theorem isClosed_apply (conn : Nat) (w : World) :
    isClosed conn w = (.done (w.session conn).isOver, w) := rfl

/-- A close of a session that is over does nothing and succeeds. -/
theorem close_of_over (h : (w.session conn).isOver = true)
    (reason : String) : close conn reason w = (.done (), w) := by
  unfold close
  rw [Run.bind_done (isClosed_apply conn w), h]
  rfl

/-- A closed session is over. -/
theorem isOver_of_closed {s : Session} {r : String}
    (h : s.closed = some r) : s.isOver = true := by
  unfold isOver
  rw [h]
  rfl

/-- A session is in use where it has no end and can be written to. -/
theorem isOver_eq_false_iff {s : Session} :
    s.isOver = false ↔ s.closed = none ∧ s.writable = true := by
  unfold isOver
  cases s.closed <;> simp

-- ============================================================== writing

/-- A frame is written, or it is not and nothing has happened. -/
theorem write_cases (conn : Nat) (frame : Outgoing) (w : World) :
    write conn frame w = (.done none, w.perform (.wrote conn frame))
      ∨ ∃ fault, write conn frame w = (.done (some fault), w) := by
  unfold write
  by_cases hr : (w.session conn).hasReset = true
  · rw [if_pos hr]
    exact Or.inr ⟨_, rfl⟩
  · rw [if_neg hr]
    cases w.service.refuse w.acts conn frame with
    | none => exact Or.inl rfl
    | some fault => exact Or.inr ⟨fault, rfl⟩

/-- No reset has arrived, and the transport takes the frame. -/
def CanWrite (conn : Nat) (frame : Outgoing) (w : World) : Prop :=
  (w.session conn).hasReset = false
    ∧ w.service.refuse w.acts conn frame = none

/-- A frame that the transport takes is written. -/
theorem write_of_taken {frame : Outgoing}
    (hreset : (w.session conn).hasReset = false)
    (htaken : w.service.refuse w.acts conn frame = none) :
    write conn frame w = (.done none, w.perform (.wrote conn frame)) := by
  unfold write
  rw [hreset, htaken]
  rfl

/-- One that it does not take is not. -/
theorem write_of_refused {frame : Outgoing} (h : ¬CanWrite conn frame w) :
    ∃ fault, write conn frame w = (.done (some fault), w) := by
  unfold write
  by_cases hreset : (w.session conn).hasReset = true
  · rw [if_pos hreset]
    exact ⟨_, rfl⟩
  · rw [if_neg hreset]
    cases hrefuse : w.service.refuse w.acts conn frame with
    | none => exact absurd ⟨by simpa using hreset, hrefuse⟩ h
    | some fault => exact ⟨fault, rfl⟩

/-- What a message to a session in use comes to. -/
inductive SendEnds (conn : Nat) (text : String) (w : World) :
    Outcome Unit × World → Prop where
  | sent : SendEnds conn text w
      (.done (), w.perform (.wrote conn (.text text)))
  | closes (r : String) : SendEnds conn text w
      (.failed (.closed r), w.modify conn fun s => { s with closed := some r })
  | fails (r : String) : SendEnds conn text w (.failed (.transport r), w)

/-- Every end of sending (`send`). -/
theorem send_ends (h : (w.session conn).closed = none) (text : String) :
    SendEnds conn text w (send conn text w) := by
  unfold send
  rw [Run.get_bind]
  simp only [h]
  by_cases hw : (w.session conn).writable = true
  · rw [if_pos hw]
    rcases write_cases conn (.text text) w with hok | ⟨fault, hfault⟩
    · rw [Run.bind_done hok]
      exact .sent
    · rw [Run.bind_done hfault]
      cases fault with
      | gone r => exact .closes r
      | failed r => exact .fails r
  · rw [if_neg hw]
    exact .closes afterClosingReason

/-- A message is sent or fails; sending it waits for nothing. -/
theorem send_not_stalled (text : String) :
    send conn text w ≠ (.stalled, w') := by
  cases h : (w.session conn).closed with
  | some r =>
      rw [send_of_closed h]
      simp
  | none =>
      have hends := send_ends h text
      intro hs
      rw [hs] at hends
      cases hends

/-- A message opens no session. -/
theorem send_length {text : String} {o : Outcome Unit}
    (h : send conn text w = (o, w')) :
    w'.sessions.length = w.sessions.length := by
  cases hclosed : (w.session conn).closed with
  | some r =>
      rw [send_of_closed hclosed] at h
      cases h
      rfl
  | none =>
      have hends := send_ends hclosed text
      rw [h] at hends
      cases hends with
      | sent => exact World.perform_length _
      | closes r => exact World.modify_length _
      | fails r => rfl

/-- What closing a session in use comes to. -/
inductive CloseEnds (conn : Nat) (reason : String) (w : World) :
    Outcome Unit × World → Prop where
  | closed : CloseEnds conn reason w
      (.done (), (w.perform (.wrote conn (.close (some ⟨normalCode, reason⟩)))).modify
        conn fun s => { s with
          writable := false, inbox := [],
          closed := some ("closed by harness: " ++ reason) })
  | gone (r : String) : CloseEnds conn reason w
      (.done (), w.modify conn fun s => { s with
        writable := false, inbox := [], closed := some r })
  | fails (r : String) : CloseEnds conn reason w
      (.failed (.transport r), w.modify conn fun s =>
        { s with writable := false })

/-- Every end of a close of a session in use (`close`). -/
theorem close_ends (h : (w.session conn).isOver = false)
    (reason : String) : CloseEnds conn reason w (close conn reason w) := by
  unfold close
  rw [Run.bind_done (isClosed_apply conn w), h]
  rcases write_cases conn (.close (some ⟨normalCode, reason⟩)) w
    with hok | ⟨fault, hfault⟩
  · simp only [Bool.false_eq_true, if_false]
    rw [Run.bind_done hok]
    exact .closed
  · simp only [Bool.false_eq_true, if_false]
    rw [Run.bind_done hfault]
    cases fault with
    | gone r => exact .gone r
    | failed r => exact .fails r

/-- A close succeeds or fails; it waits for nothing either. -/
theorem close_not_stalled (reason : String) :
    close conn reason w ≠ (.stalled, w') := by
  cases h : (w.session conn).isOver with
  | true =>
      rw [close_of_over h]
      simp
  | false =>
      have hends := close_ends h reason
      intro hs
      rw [hs] at hends
      cases hends

-- ============================================================== reading

/-- The ways in which a far end ends a session, and what is told of
each. -/
inductive Ends : Event → String → Prop where
  | closeFrame (frame : Option CloseFrame) :
      Ends (.close frame) (closeReason (frame.map acceptedClose))
  | emptyText : Ends (.text "") emptyReason
  | emptyBinary : Ends (.binary []) emptyReason
  | ended : Ends .ended endedReason
  | reset : Ends .reset resetReason

/-- What a read gives for each event that it meets. A binary message is
the text that its bytes encode. -/
inductive Gives : Event → Except Failure Received → Prop where
  | text {payload : String} (h : payload ≠ "") :
      Gives (.text payload) (.ok (.message payload))
  | binary {text : String} (h : text ≠ "") :
      Gives (.binary (Text.Utf8.encode text)) (.ok (.message text))
  | notText {payload : List UInt8} {fault : Text.Utf8.Fault}
      (h : ∀ text, payload ≠ Text.Utf8.encode text)
      (hf : Text.Utf8.decode payload = .error fault) :
      Gives (.binary payload)
        (.error (.frame ("binary frame is not UTF-8: " ++ fault.message)))
  | violation (v : Violation) :
      Gives (.violation v) (.error (.transport v.message))
  | ends {e : Event} {r : String} (h : Ends e r) : Gives e (.ok (.closed r))

/-- What a read comes to once it has met an event. Only the end of the
session changes the world; before it a close frame is answered, if it
can be. -/
inductive MeetEnds (conn : Nat) (e : Event) (w : World) :
    Outcome Received × World → Prop where
  | message {text : String} (h : Gives e (.ok (.message text))) :
      MeetEnds conn e w (.done (.message text), w)
  | fails {f : Failure} (h : Gives e (.error f)) :
      MeetEnds conn e w (.failed f, w)
  | closes {r : String} (h : Ends e r) {w₁ : World}
      (hw : w₁ = w ∨ ∃ frame, e = .close frame
        ∧ w₁ = w.perform (.wrote conn (.close (frame.map acceptedClose)))) :
      MeetEnds conn e w
        (.done (.closed r), w₁.modify conn fun s => { s with closed := some r })

/-- What meeting an event comes to, event by event. This is the one place
where the cases of `read` are opened. -/
theorem meet_ends (conn : Nat) (e : Event) (w : World) :
    MeetEnds conn e w (meet conn e w) := by
  cases e with
  | text payload =>
      by_cases hp : payload = ""
      · subst hp
        exact .closes .emptyText (Or.inl rfl)
      · simp only [meet, if_neg hp]
        exact .message (.text hp)
  | binary payload =>
      by_cases hp : payload = []
      · subst hp
        exact .closes .emptyBinary (Or.inl rfl)
      · -- bytes that are there encode a text or are a fault
        have hp' : ¬payload.isEmpty = true := by
          rw [List.isEmpty_iff]
          exact hp
        simp only [meet, if_neg hp']
        cases hd : Text.Utf8.decode payload with
        | ok text =>
            rw [Text.Utf8.decode_eq_ok_iff] at hd
            subst hd
            refine .message (.binary fun ht => hp ?_)
            rw [ht, Text.Utf8.encode_empty]
        | error fault =>
            refine .fails (.notText (fun text ht => ?_) hd)
            rw [Text.Utf8.decode_eq_ok_iff.2 ht] at hd
            cases hd
  | close frame =>
      simp only [meet]
      rcases write_cases conn (.close (frame.map acceptedClose)) w
        with hw | ⟨fault, hw⟩
      · rw [Run.bind_done hw]
        exact .closes (.closeFrame frame) (Or.inr ⟨frame, rfl, rfl⟩)
      · rw [Run.bind_done hw]
        exact .closes (.closeFrame frame) (Or.inl rfl)
  | violation v => exact .fails (.violation v)
  | ended => exact .closes .ended (Or.inl rfl)
  | reset => exact .closes .reset (Or.inl rfl)

/-- The world with another inbox on a connection. -/
def withInbox (conn : Nat) (inbox : List Arrival) (w : World) : World :=
  w.modify conn fun s => { s with inbox := inbox }

/-- The first event is taken with the pings and pongs in front of it. -/
theorem takeEvent_some {e : Event} {rest : List Arrival}
    (h : firstEvent (w.session conn).inbox = some (e, rest)) :
    takeEvent conn w = (.done (some e), withInbox conn rest w) := by
  unfold takeEvent
  rw [h]
  rfl

/-- Where there is none, the pings and pongs are taken alone. -/
theorem takeEvent_none (h : firstEvent (w.session conn).inbox = none) :
    takeEvent conn w = (.done none, withInbox conn [] w) := by
  unfold takeEvent
  rw [h]
  rfl

/-- The world after a wait that began with nothing left to read. -/
def afterWait (conn : Nat) (wait : Wait) (w : World) : World :=
  (withInbox conn [] w).perform (.waited wait)

/-- The worlds in which a read looks for an event: the one in which it
begins, and, if there is none, the one after its wait. -/
def Looks (conn : Nat) (wait : Wait) (w w₀ : World) : Prop :=
  w₀ = w ∨ firstEvent (w.session conn).inbox = none
    ∧ w₀ = afterWait conn wait w

/-- What reading a session in use comes to. -/
inductive ReadEnds (conn : Nat) (wait : Wait) (w : World) :
    Outcome (Option Received) × World → Prop where
  /-- An event is there, or has come during the wait. -/
  | met {w₀ : World} (h₀ : Looks conn wait w w₀)
      {e : Event} {rest : List Arrival}
      (he : firstEvent (w₀.session conn).inbox = some (e, rest))
      {o : Outcome Received} {w' : World}
      (hm : MeetEnds conn e (withInbox conn rest w₀) (o, w')) :
      ReadEnds conn wait w (o.map some, w')
  /-- None is there and none has come. -/
  | silent (h : firstEvent (w.session conn).inbox = none)
      (hs : firstEvent ((afterWait conn wait w).session conn).inbox = none) :
      ReadEnds conn wait w
        (.done none, withInbox conn [] (afterWait conn wait w))

/-- A read without a bound in terms of one that may give nothing. -/
private theorem bind_some (r : Run Received) (w : World) :
    ((r >>= fun a => pure (some a)) : Run (Option Received)) w
      = ((r w).1.map some, (r w).2) :=
  Run.map_apply some r w

/-- A read of a session in use meets the first event that is there,
whatever it would have waited for. -/
theorem read_of_event {e : Event} {rest : List Arrival}
    (h : (w.session conn).closed = none)
    (he : firstEvent (w.session conn).inbox = some (e, rest)) (wait : Wait) :
    read conn wait w
      = ((meet conn e (withInbox conn rest w)).1.map some,
          (meet conn e (withInbox conn rest w)).2) := by
  rw [← bind_some]
  unfold read
  rw [Run.get_bind]
  simp only [h]
  exact Run.bind_done (takeEvent_some he)

/-- Every end of a read of a session that has no end (`read`). -/
theorem read_ends (h : (w.session conn).closed = none) (wait : Wait) :
    ReadEnds conn wait w (read conn wait w) := by
  cases he : firstEvent (w.session conn).inbox with
  | some x =>
      rw [read_of_event h he]
      exact .met (Or.inl rfl) he (meet_ends conn _ _)
  | none =>
      unfold read
      rw [Run.get_bind]
      simp only [h]
      rw [Run.bind_done (takeEvent_none he)]
      simp only [Run.change_bind]
      show ReadEnds conn wait w ((takeEvent conn >>= _) (afterWait conn wait w))
      cases hs : firstEvent ((afterWait conn wait w).session conn).inbox with
      | some x =>
          rw [Run.bind_done (takeEvent_some hs)]
          simp only [bind_some]
          exact .met (Or.inr ⟨he, rfl⟩) hs (meet_ends conn _ _)
      | none =>
          rw [Run.bind_done (takeEvent_none hs)]
          exact .silent he hs

-- ================================================= after a read

/-- A session with another inbox is the same otherwise. -/
theorem session_withInbox (hlt : conn < w.sessions.length)
    (inbox : List Arrival) :
    (withInbox conn inbox w).session conn
      = { w.session conn with inbox := inbox } :=
  World.session_modify hlt _

theorem withInbox_length (inbox : List Arrival) :
    (withInbox conn inbox w).sessions.length = w.sessions.length :=
  World.modify_length _

/-- After a wait an inbox holds what the service sent in return for it. -/
theorem session_afterWait (hlt : conn < w.sessions.length) (wait : Wait) :
    (afterWait conn wait w).session conn
      = { w.session conn with
          inbox := w.service.sendsOn conn (.waited wait :: w.acts) } := by
  unfold afterWait
  rw [World.session_perform (by rw [withInbox_length]; exact hlt),
    session_withInbox hlt]
  rfl

theorem afterWait_length (wait : Wait) :
    (afterWait conn wait w).sessions.length = w.sessions.length := by
  unfold afterWait
  rw [World.perform_length, withInbox_length]

/-- Looking for an event changes the inbox only. -/
theorem Looks.session {wait : Wait} {w₀ : World}
    (h : Looks conn wait w w₀) (hlt : conn < w.sessions.length) :
    conn < w₀.sessions.length
      ∧ w₀.session conn
        = { w.session conn with inbox := (w₀.session conn).inbox } := by
  rcases h with rfl | ⟨-, rfl⟩
  · exact ⟨hlt, rfl⟩
  · rw [afterWait_length, session_afterWait hlt]
    exact ⟨hlt, rfl⟩

/-- The reason with which a read ended the session, if it did. -/
def endOf : Outcome (Option Received) → Option String
  | .done (some (.closed r)) => some r
  | _ => none

/-- A read of a session in use changes its inbox, and its end when it
says so, and nothing else. -/
theorem ReadEnds.changes {wait : Wait} {o : Outcome (Option Received)}
    {w' : World} (h : (w.session conn).closed = none)
    (hr : ReadEnds conn wait w (o, w')) :
    ∃ inbox, w'.session conn
      = { w.session conn with inbox := inbox, closed := endOf o } := by
  have hlt := World.lt_of_closed_eq_none h
  have hopen : ∀ inbox, { w.session conn with inbox := inbox }
      = { w.session conn with inbox := inbox, closed := none } := by
    intro inbox
    rw [← h]
  cases hr with
  | silent _ _ =>
      refine ⟨[], ?_⟩
      rw [session_withInbox (by rw [afterWait_length]; exact hlt),
        session_afterWait hlt]
      exact hopen []
  | @met w₀ h₀ e rest he o w' hm =>
      obtain ⟨hlt₀, hs₀⟩ := h₀.session hlt
      have hlt₁ : conn < (withInbox conn rest w₀).sessions.length := by
        rw [withInbox_length]
        exact hlt₀
      have hs₁ : (withInbox conn rest w₀).session conn
          = { w.session conn with inbox := rest } := by
        rw [session_withInbox hlt₀, hs₀]
      cases hm with
      | message _ => exact ⟨rest, hs₁.trans (hopen rest)⟩
      | fails _ => exact ⟨rest, hs₁.trans (hopen rest)⟩
      | closes _ hw =>
          -- an answered close frame is written to the service, which may send
          -- more in return
          rcases hw with rfl | ⟨frame, -, rfl⟩
          · refine ⟨rest, ?_⟩
            rw [World.session_modify hlt₁, hs₁]
            rfl
          · refine ⟨rest ++ (withInbox conn rest w₀).service.sendsOn conn
              (.wrote conn (.close (frame.map acceptedClose))
                :: (withInbox conn rest w₀).acts), ?_⟩
            rw [World.session_modify (by rw [World.perform_length]; exact hlt₁),
              World.session_perform hlt₁, hs₁]
            rfl

/-- A read of a session in use closes it when it says so and not
otherwise, and never takes away that it can be written to. -/
theorem ReadEnds.session {wait : Wait} {o : Outcome (Option Received)}
    {w' : World} (h : (w.session conn).closed = none)
    (hr : ReadEnds conn wait w (o, w')) :
    (w'.session conn).closed = endOf o
      ∧ (w'.session conn).writable = (w.session conn).writable := by
  obtain ⟨inbox, hs⟩ := hr.changes h
  rw [hs]
  exact ⟨rfl, rfl⟩

/-- A read gives something, or nothing, or fails; it does not wait for
ever. -/
theorem read_not_stalled (wait : Wait) :
    read conn wait w ≠ (.stalled, w') := by
  intro hread
  cases h : (w.session conn).closed with
  | some r =>
      rw [read_of_closed h] at hread
      cases hread
  | none =>
      have hends := read_ends h wait
      generalize hresult : read conn wait w = result at hends
      rw [hresult] at hread
      cases hends with
      | silent _ _ => cases hread
      | met _ _ hm => cases hm <;> cases hread

/-- A read opens no session. -/
theorem read_length {wait : Wait} {o : Outcome (Option Received)}
    (h : read conn wait w = (o, w')) :
    w'.sessions.length = w.sessions.length := by
  cases hclosed : (w.session conn).closed with
  | some r =>
      rw [read_of_closed hclosed] at h
      cases h
      rfl
  | none =>
      have hends := read_ends hclosed wait
      rw [h] at hends
      cases hends with
      | silent _ _ => rw [withInbox_length, afterWait_length]
      | @met w₀ hlooks e rest he o w' hm =>
          have hlen : (withInbox conn rest w₀).sessions.length
              = w.sessions.length := by
            rw [withInbox_length]
            rcases hlooks with rfl | ⟨-, rfl⟩
            · rfl
            · exact afterWait_length wait
          cases hm with
          | message _ => exact hlen
          | fails _ => exact hlen
          | closes _ hw =>
              rw [World.modify_length, ← hlen]
              rcases hw with rfl | ⟨frame, -, rfl⟩
              · rfl
              · exact World.perform_length _

/-- An unbounded read leaves the world that the one read it makes
leaves. -/
theorem exists_read_of_receive {o : Outcome Received}
    (h : receive conn w = (o, w')) :
    ∃ o', read conn (.arrival conn) w = (o', w') := by
  cases hread : read conn (.arrival conn) w with
  | mk o' w₁ =>
      unfold receive at h
      cases o' with
      | done r =>
          rw [Run.bind_done hread] at h
          cases r <;> cases h <;> exact ⟨_, rfl⟩
      | failed e =>
          rw [Run.bind_failed hread] at h
          cases h
          exact ⟨_, rfl⟩
      | stalled => exact absurd hread (read_not_stalled _)

/-- An unbounded read that came back read what it gives. -/
theorem read_of_receive {r : Received}
    (h : receive conn w = (.done r, w')) :
    read conn (.arrival conn) w = (.done (some r), w') := by
  unfold receive at h
  obtain ⟨a, w₁, hr, h⟩ := Run.bind_eq_done h
  cases a with
  | some r' =>
      cases h
      exact hr
  | none => cases h

/-- A read that gives the end finds or leaves the session closed. -/
theorem closed_of_read {wait : Wait} {r : String}
    (h : read conn wait w = (.done (some (.closed r)), w')) :
    (w'.session conn).closed = some r := by
  cases hclosed : (w.session conn).closed with
  | some r' =>
      rw [read_of_closed hclosed] at h
      cases h
      exact hclosed
  | none => exact (ReadEnds.session hclosed (h ▸ read_ends hclosed _)).1

/-- A read that tells the end has marked the session with its reason. -/
theorem closed_of_receive {r : String}
    (h : receive conn w = (.done (.closed r), w')) :
    (w'.session conn).closed = some r :=
  closed_of_read (read_of_receive h)

end Session

end PairingHarness.Network
