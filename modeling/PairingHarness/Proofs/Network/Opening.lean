/-
A session that was opened is in use.

Once `connect` has given a connection, its session has no end and can be
written to (`inUse_of_connect`), so that the facts about sessions in use
hold of it from then on. The read that opened it took the handshake and
nothing after it (`handshake_first`): what is delivered on the session
is all that the service sent on it but its greeting.

Everything that is proved of sessions in use has this as its way in. It
also says what a scenario may rely on when it goes on after `connect`:
the number of the new session is the next one, no other session was
touched, and the frames behind the greeting are still unread.
-/
import PairingHarness.Proofs.Network.Delivery

namespace PairingHarness.Network.Session

variable {w w' : World} {conn : Nat} {url : String}

/-- Dialling gives a number only for a session that the service
accepted: the next one. -/
theorem dial_eq_done (h : dial url w = (.done conn, w')) :
    ∃ address, Url.parse url = .ok address
      ∧ w.service.answer w.acts address = some .accepted
      ∧ conn = w.sessions.length
      ∧ w' = register url address.target w := by
  unfold dial at h
  cases hurl : Url.parse url with
  | error fault =>
      rw [hurl] at h
      cases h
  | ok address =>
      rw [hurl] at h
      simp only [Run.get_bind] at h
      cases hanswer : w.service.answer w.acts address with
      | none =>
          rw [hanswer] at h
          cases h
      | some answer =>
          rw [hanswer] at h
          simp only [Run.change_bind] at h
          cases answer with
          | accepted =>
              cases h
              exact ⟨address, rfl, hanswer, rfl, rfl⟩
          | status code =>
              by_cases hc : code = 101
              · simp only [if_pos hc] at h
                cases h
              · simp only [if_neg hc] at h
                cases h
          | defective defect => cases h
          | reset => cases h

/-- Registering a session adds one. -/
theorem register_length (url target : String) (w : World) :
    (register url target w).sessions.length = w.sessions.length + 1 := by
  unfold register
  rw [World.perform_length, List.length_append, List.length_singleton]

/-- A session just opened: nothing happened on it but what the service
sent at once. -/
theorem session_register (url target : String) (w : World) :
    w.sessions.length < (register url target w).sessions.length
      ∧ (register url target w).session w.sessions.length
        = { fresh url target with
            inbox := w.service.sendsOn w.sessions.length
              (.opened target :: w.acts) } := by
  have hlt : w.sessions.length
      < ({ w with sessions := w.sessions ++ [fresh url target] }
          : World).sessions.length := by
    show w.sessions.length < (w.sessions ++ [fresh url target]).length
    rw [List.length_append]
    exact Nat.lt_succ_self _
  unfold register
  refine ⟨by rw [World.perform_length]; exact hlt, ?_⟩
  rw [World.session_perform hlt, World.session_add]
  rfl

/-- Opening a session is dialling, one read, and a handshake in what is
read. -/
theorem connect_eq_done {handshake : Handshake}
    (h : connect url w = (.done (conn, handshake), w')) :
    ∃ address text w₁, Url.parse url = .ok address
      ∧ conn = w.sessions.length
      ∧ receive conn (register url address.target w)
        = (.done (.message text), w₁)
      ∧ Handshake.parse text = .ok handshake
      ∧ w' = w₁.modify conn fun s => { s with handshake := some handshake } := by
  unfold connect at h
  obtain ⟨conn', w₁, hdial, h⟩ := Run.bind_eq_done h
  obtain ⟨address, haddress, -, rfl, rfl⟩ := dial_eq_done hdial
  obtain ⟨r, w₂, hreceive, h⟩ := Run.bind_eq_done h
  cases r with
  | closed reason => cases h
  | message text =>
      obtain ⟨handshake', w₃, hparse, h⟩ := Run.bind_eq_done h
      cases hp : Handshake.parse text with
      | error e =>
          rw [hp] at hparse
          cases hparse
      | ok handshake'' =>
          rw [hp] at hparse
          cases hparse
          cases h
          exact ⟨address, text, w₂, haddress, rfl, hreceive, hp, rfl⟩

/-- A session that was just registered has no end yet, even where its end
has arrived with it. -/
theorem closed_register (url target : String) (w : World) :
    ((register url target w).session w.sessions.length).closed = none := by
  rw [(session_register url target w).2]
  rfl

/-- A session that was opened is in use. -/
theorem inUse_of_connect {handshake : Handshake}
    (h : connect url w = (.done (conn, handshake), w')) :
    (w'.session conn).isOver = false := by
  obtain ⟨address, text, w₁, -, rfl, hreceive, -, rfl⟩ := connect_eq_done h
  have hclosed := closed_register url address.target w
  have hread := read_of_receive hreceive
  have hend := ReadEnds.session hclosed (hread ▸ read_ends hclosed _)
  rw [World.session_modify (World.lt_of_closed_eq_none hend.1)]
  unfold isOver
  rw [hend.1, hend.2, (session_register url address.target w).2]
  rfl

/-- A session that was opened has the next number. -/
theorem number_of_connect {handshake : Handshake}
    (h : connect url w = (.done (conn, handshake), w')) :
    conn = w.sessions.length ∧ w'.sessions.length = w.sessions.length + 1 := by
  obtain ⟨address, text, w₁, -, hconn, hreceive, -, rfl⟩ := connect_eq_done h
  obtain ⟨o, hread⟩ := exists_read_of_receive hreceive
  refine ⟨hconn, ?_⟩
  rw [World.modify_length, read_length hread, register_length]

/-- The handshake is the first that the service sent, pings and pongs
apart, and what it sent after it is there to be read. -/
theorem handshake_first {handshake : Handshake}
    (h : connect url w = (.done (conn, handshake), w')) :
    ∃ quiet e text, Quiet quiet ∧ Gives e (.ok (.message text))
      ∧ Handshake.parse text = .ok handshake
      ∧ w'.sent conn = w.sent conn
        ++ (quiet ++ .event e :: (w'.session conn).inbox) := by
  obtain ⟨address, text, w₁, -, rfl, hreceive, hparse, rfl⟩ :=
    connect_eq_done h
  have hclosed := closed_register url address.target w
  have hread := read_of_receive hreceive
  obtain ⟨more, hsent, htakes⟩ :=
    takes_of_read hclosed (hread ▸ read_ends hclosed _)
  have hinbox : ((register url address.target w).session
      w.sessions.length).inbox
        = w.service.sendsOn w.sessions.length
          (.opened address.target :: w.acts) := by
    rw [(session_register url address.target w).2]
  have hopened : (register url address.target w).sent w.sessions.length
      = w.sent w.sessions.length
        ++ w.service.sendsOn w.sessions.length
          (.opened address.target :: w.acts) := World.sent_perform _
  cases htakes with
  | @answer quiet e _ hq hall hg _ hs =>
      refine ⟨quiet, e, text, hq, hg, hparse, ?_⟩
      rw [World.session_modify (World.lt_of_closed_eq_none hs)]
      show w₁.sent w.sessions.length = _
      rw [hsent, hopened, List.append_assoc, ← hinbox, hall]

end PairingHarness.Network.Session
