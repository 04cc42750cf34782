/-
Talk on a session: calls on it that are no closes.

Talk never takes away that a session can be written to, so a session
that is over after it was ended by one of the calls, and that call told
so (`isOver_iff_told`). What is written in the meantime are messages,
and one close frame at most: the answer to one that the service sent,
written by the very read that tells the end (`wrote_of_talk`).

The close frame that a read may write is the answer that the protocol
asks for, with the reason of the frame that it answers. It is written at
once and may fail, and the read tells the end in either case, so what is
written of close frames is bounded even though the harness has not
closed anything.
-/
import PairingHarness.Proofs.Network.Aside
import PairingHarness.Proofs.Network.Opening

namespace PairingHarness.Network

variable {w w₁ w' : World} {conn : Nat} {c : Call} {reply : Reply}
  {calls calls' : List (Call × Reply)}

-- ========================================================== the calls

/-- Calls of which none closes the session. -/
def Talk (calls : List (Call × Reply)) : Prop :=
  ∀ x ∈ calls, ∀ reason, x.1 ≠ .close reason

/-- One of the calls has told the end of the session. -/
def Told (calls : List (Call × Reply)) : Prop :=
  ∃ x ∈ calls, ∃ r, x.1.tells x.2 = some r

/-- Talk after talk is talk. -/
theorem Talk.append (h : Talk calls) (h' : Talk calls') :
    Talk (calls ++ calls') := by
  intro x hx
  rcases List.mem_append.1 hx with hx | hx
  · exact h x hx
  · exact h' x hx

theorem talk_nil : Talk [] := fun _ hx => by cases hx

theorem not_told_nil : ¬Told [] := by
  intro htold
  obtain ⟨x, hx, -⟩ := htold
  cases hx

/-- A call that told nothing does not count. -/
theorem told_cons {x : Call × Reply} (h : x.1.tells x.2 = none) :
    Told (x :: calls) ↔ Told calls := by
  constructor
  · intro htold
    obtain ⟨y, hy, r, hr⟩ := htold
    rcases List.mem_cons.1 hy with rfl | hy
    · rw [h] at hr
      cases hr
    · exact ⟨y, hy, r, hr⟩
  · intro htold
    obtain ⟨y, hy, r, hr⟩ := htold
    exact ⟨y, List.mem_cons_of_mem _ hy, r, hr⟩

/-- The parties talk on a connection from one world to another. -/
def Talks (conn : Nat) (w w' : World) : Prop :=
  ∃ calls, Course conn w calls w' ∧ Talk calls

/-- Talk goes on where it was left. -/
theorem Talks.trans (h : Talks conn w w₁) (h' : Talks conn w₁ w') :
    Talks conn w w' := by
  obtain ⟨calls, hcourse, htalk⟩ := h
  obtain ⟨calls', hcourse', htalk'⟩ := h'
  exact ⟨_, hcourse.append hcourse', htalk.append htalk'⟩

theorem talks_of_idle (h : Course conn w [] w') : Talks conn w w' :=
  ⟨[], h, talk_nil⟩

/-- Every call but a close is talk. -/
theorem talks_of_play (h : c.play conn w = (.done reply, w'))
    (hc : ∀ reason, c ≠ .close reason) : Talks conn w w' := by
  refine ⟨_, course_of_play h, fun x hx => ?_⟩
  cases List.mem_singleton.1 hx
  exact hc

-- ================================================ what a course leaves be

/-- Closing a session leaves what the service said first. -/
theorem handshake_of_close {reason : String} {o : Outcome Unit}
    (h : Session.close conn reason w = (o, w')) :
    (w'.session conn).handshake = (w.session conn).handshake := by
  cases hover : (w.session conn).isOver with
  | true =>
      rw [Session.close_of_over hover] at h
      cases h
      rfl
  | false =>
      have hlt := World.lt_of_closed_eq_none
        (Session.isOver_eq_false_iff.1 hover).1
      have hends := Session.close_ends hover reason
      rw [h] at hends
      cases hends with
      | closed =>
          rw [World.session_modify (by rw [World.perform_length]; exact hlt),
            World.session_perform hlt]
      | gone r => rw [World.session_modify hlt]
      | fails r => rw [World.session_modify hlt]

/-- A message changes no handshake, -/
theorem handshake_of_send {text : String} {o : Outcome Unit}
    (h : Session.send conn text w = (o, w')) :
    (w'.session conn).handshake = (w.session conn).handshake := by
  cases hclosed : (w.session conn).closed with
  | some r =>
      rw [Session.send_of_closed hclosed] at h
      cases h
      rfl
  | none =>
      have hlt := World.lt_of_closed_eq_none hclosed
      have hends := Session.send_ends hclosed text
      rw [h] at hends
      cases hends with
      | sent => rw [World.session_perform hlt]
      | closes r => rw [World.session_modify hlt]
      | fails r => rfl

/-- nor does a read, -/
theorem handshake_of_read {wait : Wait} {o : Outcome (Option Received)}
    (h : Session.read conn wait w = (o, w')) :
    (w'.session conn).handshake = (w.session conn).handshake := by
  cases hclosed : (w.session conn).closed with
  | some r =>
      rw [Session.read_of_closed hclosed] at h
      cases h
      rfl
  | none =>
      have hends := Session.read_ends hclosed wait
      rw [h] at hends
      obtain ⟨inbox, hs⟩ := hends.changes hclosed
      rw [hs]

/-- nor any call. -/
theorem handshake_of_play (h : c.play conn w = (.done reply, w')) :
    (w'.session conn).handshake = (w.session conn).handshake := by
  cases c with
  | receive =>
      obtain ⟨o, hread, -⟩ := read_of_play rfl h
      exact handshake_of_read hread
  | receiveWithin ms =>
      obtain ⟨o, hread, -⟩ := read_of_play rfl h
      exact handshake_of_read hread
  | send text =>
      rcases answered_eq_done h with ⟨u, hs, -⟩ | ⟨e, hs, -⟩
      · exact handshake_of_send hs
      · exact handshake_of_send hs
  | close reason =>
      rcases answered_eq_done h with ⟨u, hs, -⟩ | ⟨e, hs, -⟩
      · exact handshake_of_close hs
      · exact handshake_of_close hs

/-- What the service said first stays what it is. -/
theorem handshake_of_course (h : Course conn w calls w') :
    (w'.session conn).handshake = (w.session conn).handshake := by
  induction h with
  | done w => rfl
  | call hplay _ ih => exact ih.trans (handshake_of_play hplay)
  | elsewhere haside _ ih =>
      obtain ⟨more, hs, -⟩ := haside.session
      rw [ih, hs]

-- ======================================================= when it is over

/-- Talk never takes away that a session can be written to. -/
theorem writable_of_talk (h : Course conn w calls w') (htalk : Talk calls) :
    (w'.session conn).writable = (w.session conn).writable := by
  induction h with
  | done w => rfl
  | @call w w₁ w' c reply calls hplay hrest ih =>
      refine (ih fun x hx => htalk x (List.mem_cons_of_mem _ hx)).trans ?_
      cases hclosed : (w.session conn).closed with
      | some r =>
          rw [play_of_closed hclosed] at hplay
          cases hplay
          rfl
      | none =>
          exact (session_of_play hclosed hplay
            (htalk _ List.mem_cons_self)).2
  | elsewhere haside _ ih =>
      obtain ⟨more, hs, -⟩ := haside.session
      rw [ih htalk, hs]

/-- It closes a session in use when one of the calls tells the end and
not otherwise. -/
theorem closed_iff_told (h : Course conn w calls w') (htalk : Talk calls)
    (hclosed : (w.session conn).closed = none) :
    (w'.session conn).closed = none ↔ ¬Told calls := by
  induction h with
  | done w => exact ⟨fun _ htold => not_told_nil htold, fun _ => hclosed⟩
  | @call w w₁ w' c reply calls hplay hrest ih =>
      have htells :=
        (session_of_play hclosed hplay (htalk _ List.mem_cons_self)).1
      cases htold : c.tells reply with
      | none =>
          rw [told_cons htold]
          exact ih (fun x hx => htalk x (List.mem_cons_of_mem _ hx))
            (htells.trans htold)
      | some r =>
          -- the rest of the calls find the session closed
          have hend := (course_of_closed hrest (htells.trans htold)).1
          have htold' : Told ((c, reply) :: calls) :=
            ⟨_, List.mem_cons_self, r, htold⟩
          rw [hend]
          exact ⟨fun hnone => absurd hnone (Option.some_ne_none r),
            fun hnot => absurd htold' hnot⟩
  | elsewhere haside _ ih =>
      obtain ⟨more, hs, -⟩ := haside.session
      exact ih htalk (by rw [hs]; exact hclosed)

/-- After talk a session that was in use is over when its end was told
and not otherwise. -/
theorem isOver_iff_told (h : Course conn w calls w') (htalk : Talk calls)
    (huse : (w.session conn).isOver = false) :
    (w'.session conn).isOver = true ↔ Told calls := by
  obtain ⟨hclosed, hwritable⟩ := Session.isOver_eq_false_iff.1 huse
  have hiff := closed_iff_told h htalk hclosed
  have hwritable' := (writable_of_talk h htalk).trans hwritable
  constructor
  · intro hover
    apply Classical.byContradiction
    intro hnot
    rw [Session.isOver_eq_false_iff.2 ⟨hiff.2 hnot, hwritable'⟩] at hover
    cases hover
  · intro htold
    cases hend : (w'.session conn).closed with
    | none => exact absurd htold (hiff.1 hend)
    | some r => exact Session.isOver_of_closed hend

-- ======================================================= what is written

/-- What is in the inbox has been sent. -/
def Accounted (conn : Nat) (w : World) : Prop :=
  ∀ a ∈ (w.session conn).inbox, a ∈ w.sent conn

/-- A frame that answers a close frame among what was sent. -/
def AnswersClose (sent : List Arrival) (frame : Outgoing) : Prop :=
  ∃ f, .event (.close f) ∈ sent
    ∧ frame = .close (f.map Session.acceptedClose)

/-- What is written on a connection from one world to another: messages,
and, if the end was told, answers to close frames of the service. -/
def Wrote (told : Prop) (conn : Nat) (w w' : World) : Prop :=
  ∃ frames, w'.written conn = frames ++ w.written conn
    ∧ ∀ frame ∈ frames, (∃ text, frame = .text text)
      ∨ told ∧ AnswersClose (w'.sent conn) frame

theorem wrote_nothing {told : Prop} (h : w'.written conn = w.written conn) :
    Wrote told conn w w' :=
  ⟨[], h, fun frame hframe => by cases hframe⟩

/-- What answered a close frame answers it still when more was sent. -/
theorem AnswersClose.mono {sent more : List Arrival} {frame : Outgoing}
    (h : AnswersClose sent frame) : AnswersClose (sent ++ more) frame := by
  obtain ⟨f, hmem, hframe⟩ := h
  exact ⟨f, List.mem_append_left _ hmem, hframe⟩

/-- An act of the harness takes nothing back that the service sent. -/
theorem answersClose_perform {frame : Outgoing}
    (h : AnswersClose (w.sent conn) frame) (act : Act) :
    AnswersClose ((w.perform act).sent conn) frame := by
  rw [World.sent_perform]
  exact h.mono

/-- A frame that is written is the latest. -/
theorem World.written_wrote (frame : Outgoing) (w : World) :
    (w.perform (.wrote conn frame)).written conn
      = frame :: w.written conn := by
  unfold World.written
  rw [World.perform_acts, List.filterMap_cons]
  simp only [if_true]

/-- A session that was opened has nothing in its inbox but what the
service sent. -/
theorem accounted_of_connect {url : String} {handshake : Handshake}
    (h : Session.connect url w = (.done (conn, handshake), w')) :
    Accounted conn w' := by
  obtain ⟨quiet, e, text, -, -, -, hsent⟩ := Session.handshake_first h
  intro a ha
  rw [hsent]
  exact List.mem_append_right _
    (List.mem_append_right _ (List.mem_cons_of_mem _ ha))

/-- What arrives is sent and goes into the inbox. -/
theorem accounted_of_arrivals {more : List Arrival} (h : Accounted conn w)
    (hinbox : (w'.session conn).inbox = (w.session conn).inbox ++ more)
    (hsent : w'.sent conn = w.sent conn ++ more) : Accounted conn w' := by
  intro a ha
  rw [hinbox] at ha
  rw [hsent]
  rcases List.mem_append.1 ha with ha | ha
  · exact List.mem_append_left _ (h a ha)
  · exact List.mem_append_right _ ha

/-- What is done elsewhere keeps an inbox accounted for. -/
theorem accounted_elsewhere (haside : Elsewhere conn w w')
    (hlt : conn < w.sessions.length) (h : Accounted conn w) :
    Accounted conn w' := by
  obtain ⟨more, hs, hsent⟩ := haside.session
  exact accounted_of_arrivals h (by rw [hs]) (hsent hlt)

theorem accounted_perform (hlt : conn < w.sessions.length)
    (h : Accounted conn w) (act : Act) : Accounted conn (w.perform act) :=
  accounted_of_arrivals h (by rw [World.session_perform hlt])
    (World.sent_perform act)

/-- An event that is read was in the inbox, or has come during the
wait. -/
theorem mem_sent_of_firstEvent {wait : Wait} {w₀ : World} {e : Event}
    {rest : List Arrival} (h : (w.session conn).closed = none)
    (hin : Accounted conn w) (h₀ : Session.Looks conn wait w w₀)
    (he : Session.firstEvent (w₀.session conn).inbox = some (e, rest)) :
    .event e ∈ w₀.sent conn := by
  obtain ⟨quiet, more, -, hinbox, hsent⟩ :=
    looks_quiet h₀ (World.lt_of_closed_eq_none h)
  obtain ⟨quiet', -, hrest⟩ := firstEvent_eq_some he
  have hmem : .event e ∈ (w.session conn).inbox ++ more := by
    rw [hinbox, hrest]
    simp
  rw [hsent]
  rcases List.mem_append.1 hmem with hmem | hmem
  · exact List.mem_append_left _ (hin _ hmem)
  · exact List.mem_append_right _ hmem

/-- What a read of a session in use writes, if anything, answers the
close frame that it tells. -/
theorem written_of_read {wait : Wait} {o : Outcome (Option Received)}
    (h : (w.session conn).closed = none) (hin : Accounted conn w)
    (hr : Session.ReadEnds conn wait w (o, w')) :
    w'.written conn = w.written conn
      ∨ Session.endOf o ≠ none ∧ ∃ frame, AnswersClose (w'.sent conn) frame
        ∧ w'.written conn = frame :: w.written conn := by
  have hlooks : ∀ w₀, Session.Looks conn wait w w₀ →
      w₀.written conn = w.written conn := by
    intro w₀ h₀
    rcases h₀ with rfl | ⟨-, rfl⟩
    · rfl
    · exact World.written_perform fun frame hact => by cases hact
  -- only a close frame makes a read write, and it writes the answer to that
  -- frame
  cases hr with
  | silent hnone _ =>
      exact Or.inl (hlooks (Session.afterWait conn wait w)
        (Or.inr ⟨hnone, rfl⟩))
  | @met w₀ h₀ e rest he o w' hm =>
      cases hm with
      | message _ => exact Or.inl (hlooks w₀ h₀)
      | fails _ => exact Or.inl (hlooks w₀ h₀)
      | closes _ hw =>
          rcases hw with rfl | ⟨frame, rfl, rfl⟩
          · exact Or.inl (hlooks w₀ h₀)
          · have hmem : .event (.close frame) ∈ w₀.sent conn :=
              mem_sent_of_firstEvent h hin h₀ he
            have hanswers : AnswersClose
                ((Session.withInbox conn rest w₀).sent conn)
                (.close (frame.map Session.acceptedClose)) :=
              ⟨frame, hmem, rfl⟩
            refine Or.inr ⟨Option.some_ne_none _,
              .close (frame.map Session.acceptedClose),
              answersClose_perform hanswers _, ?_⟩
            rw [← hlooks w₀ h₀]
            exact World.written_wrote _ (Session.withInbox conn rest w₀)

/-- What is left in the inbox was there or has come. -/
theorem mem_of_takes {s s' : Session} {more : List Arrival}
    {x : Option Answered} (h : Takes s s' more x) (hopen : s'.closed = none) :
    ∀ a ∈ s'.inbox, a ∈ s.inbox ++ more := by
  intro a ha
  cases h with
  | nothing _ hinbox _ =>
      rw [hinbox]
      exact List.mem_append_right _ ha
  | answer _ hinbox _ _ _ =>
      rw [hinbox]
      exact List.mem_append_right _ (List.mem_cons_of_mem _ ha)
  | ends _ _ _ hend =>
      rw [hopen] at hend
      cases hend

/-- A call that reads a session in use. -/
theorem wrote_of_readCall {wait : Wait}
    (hclosed : (w.session conn).closed = none) (hin : Accounted conn w)
    (hwait : c.wait? conn = some wait)
    (h : c.play conn w = (.done reply, w')) :
    Wrote (c.tells reply ≠ none) conn w w' := by
  obtain ⟨o, hr, -⟩ := read_of_play hwait h
  have hends := Session.read_ends hclosed wait
  rw [hr] at hends
  have hend : Session.endOf o = c.tells reply :=
    (hends.session hclosed).1.symm.trans
      (session_of_play_read hclosed hwait h).1
  rcases written_of_read hclosed hin hends
    with hsame | ⟨htold, frame, hanswers, hwritten⟩
  · exact wrote_nothing hsame
  · refine ⟨[frame], hwritten, fun frame' hframe => ?_⟩
    cases List.mem_singleton.1 hframe
    exact Or.inr ⟨hend ▸ htold, hanswers⟩

/-- So does a read that tells no end. -/
theorem accounted_of_readCall {wait : Wait}
    (hclosed : (w.session conn).closed = none) (hin : Accounted conn w)
    (hwait : c.wait? conn = some wait)
    (h : c.play conn w = (.done reply, w')) (htells : c.tells reply = none) :
    Accounted conn w' := by
  obtain ⟨o, hr, -⟩ := read_of_play hwait h
  have hends := Session.read_ends hclosed wait
  rw [hr] at hends
  obtain ⟨more, hsent, htakes⟩ := takes_of_read hclosed hends
  have hopen := (session_of_play_read hclosed hwait h).1.trans htells
  intro a ha
  rw [hsent]
  rcases List.mem_append.1 (mem_of_takes htakes hopen a ha) with ha | ha
  · exact List.mem_append_left _ (hin a ha)
  · exact List.mem_append_right _ ha

/-- A call on a session in use writes a message, or the answer to the
end that it tells, or nothing. -/
theorem wrote_of_play (hclosed : (w.session conn).closed = none)
    (hin : Accounted conn w) (hc : ∀ reason, c ≠ .close reason)
    (h : c.play conn w = (.done reply, w')) :
    Wrote (c.tells reply ≠ none) conn w w' := by
  cases c with
  | receive => exact wrote_of_readCall hclosed hin rfl h
  | receiveWithin ms => exact wrote_of_readCall hclosed hin rfl h
  | send text =>
      have hends := Session.send_ends hclosed text
      rcases answered_eq_done h with ⟨u, hs, -⟩ | ⟨e, hs, -⟩
      · rw [hs] at hends
        cases hends
        refine ⟨[.text text], World.written_wrote _ w, fun frame hframe => ?_⟩
        cases List.mem_singleton.1 hframe
        exact Or.inl ⟨text, rfl⟩
      · rw [hs] at hends
        cases hends with
        | closes r => exact wrote_nothing rfl
        | fails r => exact wrote_nothing rfl
  | close reason => exact absurd rfl (hc reason)

/-- What is in the inbox after it has been sent. -/
theorem accounted_of_play (hclosed : (w.session conn).closed = none)
    (hin : Accounted conn w) (hc : ∀ reason, c ≠ .close reason)
    (h : c.play conn w = (.done reply, w')) (htells : c.tells reply = none) :
    Accounted conn w' := by
  cases c with
  | receive => exact accounted_of_readCall hclosed hin rfl h htells
  | receiveWithin ms => exact accounted_of_readCall hclosed hin rfl h htells
  | send text =>
      have hlt := World.lt_of_closed_eq_none hclosed
      have hends := Session.send_ends hclosed text
      rcases answered_eq_done h with ⟨u, hs, -⟩ | ⟨e, hs, rfl⟩
      · rw [hs] at hends
        cases hends
        exact accounted_perform hlt hin _
      · rw [hs] at hends
        cases hends with
        | closes r => cases htells
        | fails r => exact hin
  | close reason => exact absurd rfl (hc reason)

/-- Talk writes messages, and no close frame but the answer to one of
the service, which it then tells. -/
theorem wrote_of_talk (h : Course conn w calls w') (htalk : Talk calls)
    (hclosed : (w.session conn).closed = none) (hin : Accounted conn w) :
    Wrote (Told calls) conn w w' := by
  induction h with
  | done w => exact wrote_nothing rfl
  | @call w w₁ w' c reply calls hplay hrest ih =>
      have hc := htalk _ List.mem_cons_self
      obtain ⟨frames, hwritten, hframes⟩ := wrote_of_play hclosed hin hc hplay
      have hend := (session_of_play hclosed hplay hc).1
      cases htells : c.tells reply with
      | none =>
          rw [htells] at hframes
          obtain ⟨frames', hwritten', hframes'⟩ :=
            ih (fun x hx => htalk x (List.mem_cons_of_mem _ hx))
              (hend.trans htells)
              (accounted_of_play hclosed hin hc hplay htells)
          refine ⟨frames' ++ frames, ?_, fun frame hframe => ?_⟩
          · rw [hwritten', hwritten, List.append_assoc]
          · rw [told_cons htells]
            rcases List.mem_append.1 hframe with hframe | hframe
            · exact hframes' frame hframe
            · rcases hframes frame hframe with htext | ⟨htold, -⟩
              · exact Or.inl htext
              · exact absurd rfl htold
      | some r =>
          -- nothing is written on a session that is closed
          have hr := hend.trans htells
          obtain ⟨since, hsince⟩ := sent_of_closed hrest hr
          have htold : Told ((c, reply) :: calls) :=
            ⟨_, List.mem_cons_self, r, htells⟩
          refine ⟨frames, ?_, fun frame hframe => ?_⟩
          · rw [(course_of_closed hrest hr).2.2, hwritten]
          · rcases hframes frame hframe with htext | ⟨-, hanswers⟩
            · exact Or.inl htext
            · exact Or.inr ⟨htold, hsince ▸ hanswers.mono⟩
  | elsewhere haside _ ih =>
      obtain ⟨more, hs, -⟩ := haside.session
      obtain ⟨frames, hwritten, hframes⟩ :=
        ih htalk (by rw [hs]; exact hclosed) (accounted_elsewhere haside
          (World.lt_of_closed_eq_none hclosed) hin)
      exact ⟨frames, by rw [hwritten, haside.written], hframes⟩

-- ============================================================== closing

/-- Closing a session in use writes its close frame if that can be
written, and nothing if not. -/
theorem written_of_close {reason : String} {o : Outcome Unit}
    (huse : (w.session conn).isOver = false)
    (h : Session.close conn reason w = (o, w')) :
    (Session.CanWrite conn (.close (some ⟨Session.normalCode, reason⟩)) w →
        w'.written conn = .close (some ⟨Session.normalCode, reason⟩)
          :: w.written conn)
      ∧ (¬Session.CanWrite conn
            (.close (some ⟨Session.normalCode, reason⟩)) w →
        w'.written conn = w.written conn) := by
  unfold Session.close at h
  rw [Run.bind_done (Session.isClosed_apply conn w), huse] at h
  simp only [Bool.false_eq_true, if_false] at h
  constructor
  · intro hcan
    rw [Run.bind_done (Session.write_of_taken hcan.1 hcan.2)] at h
    cases h
    exact World.written_wrote _ w
  · intro hnot
    obtain ⟨fault, hfault⟩ := Session.write_of_refused hnot
    rw [Run.bind_done hfault] at h
    cases fault with
    | gone r =>
        cases h
        rfl
    | failed r =>
        cases h
        rfl

/-- A session is over once it was closed, however that went. -/
theorem isOver_of_close {reason : String} {o : Outcome Unit}
    (h : Session.close conn reason w = (o, w')) :
    (w'.session conn).isOver = true := by
  cases hover : (w.session conn).isOver with
  | true =>
      rw [Session.close_of_over hover] at h
      cases h
      exact hover
  | false =>
      have hlt := World.lt_of_closed_eq_none
        (Session.isOver_eq_false_iff.1 hover).1
      have hends := Session.close_ends hover reason
      rw [h] at hends
      cases hends with
      | closed =>
          rw [World.session_modify (by rw [World.perform_length]; exact hlt)]
          rfl
      | gone r =>
          rw [World.session_modify hlt]
          rfl
      | fails r =>
          rw [World.session_modify hlt]
          simp [Session.isOver]

end PairingHarness.Network
