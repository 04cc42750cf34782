/-
The end of a session is for good.

From the call on that tells the end of a session or brings it about,
every call on the session gives one fixed reply at once: reads the
reason, writes a failure with the same reason, closes success
(`closed_for_good`). The reason never changes and nothing more is
written, however the calls are ordered and whatever is still in flight
or sent later.

The flag that carries this is set in five places, and calls are guarded
by it in two ways: reads and writes look at the reason alone, a close
also at whether the session can be written to. The two guards agree on
every session whose end is explained (`Explained`: one that cannot be
written to has a reason), as is each that was just opened. A close that
the transport fails breaks that, and nothing else does.
-/
import PairingHarness.Proofs.Network.Course

namespace PairingHarness.Network

-- ======================================================= the statement

/-- The reply of every call on a session that is closed for this
reason. -/
def Call.whenClosed (reason : String) : Call → Reply
  | .receive | .receiveWithin _ => .heard (.closed reason)
  | .send _ => .failed (.closed reason)
  | .close _ => .fine

/-- A session that cannot be written to any more has a reason. -/
def Session.Explained (s : Session) : Prop :=
  s.closed = none → s.writable = true

/-- The calls, with their replies, that tell the end of a session or
bring it about, and the reason where the reply has one. A close that
succeeds is one of them unless a close before it was cut short by the
transport: then there is nothing left for it to do. -/
inductive EndsSession (before : List (Call × Reply)) :
    Call → Reply → Option String → Prop where
  | receive (r : String) :
      EndsSession before .receive (.heard (.closed r)) (some r)
  | receiveWithin (ms : Nat) (r : String) :
      EndsSession before (.receiveWithin ms) (.heard (.closed r)) (some r)
  | send (text r : String) :
      EndsSession before (.send text) (.failed (.closed r)) (some r)
  | close (reason : String)
      (h : ∀ earlier e, (Call.close earlier, Reply.failed e) ∉ before) :
      EndsSession before (.close reason) .fine none

variable {w w' : World} {conn : Nat}

-- ================================================ on a closed session

/-- On a closed session a call gives its fixed reply and changes
nothing. -/
theorem play_of_closed {r : String} (h : (w.session conn).closed = some r)
    (c : Call) : c.play conn w = (.done (c.whenClosed r), w) := by
  cases c with
  | receive => exact answered_done (Session.receive_of_closed h)
  | receiveWithin ms => exact answered_done (Session.read_of_closed h _)
  | send text => exact answered_failed (Session.send_of_closed h text)
  | close reason =>
      exact answered_done
        (Session.close_of_over (Session.isOver_of_closed h) reason)

/-- The whole course of a session that is closed. -/
theorem course_of_closed {r : String} {calls : List (Call × Reply)}
    (hcourse : Course conn w calls w')
    (h : (w.session conn).closed = some r) :
    (w'.session conn).closed = some r
      ∧ (∀ x ∈ calls, x.2 = x.1.whenClosed r)
      ∧ w'.written conn = w.written conn := by
  induction hcourse with
  | done w => exact ⟨h, by simp, rfl⟩
  | call hplay hrest ih =>
      rw [play_of_closed h] at hplay
      cases hplay
      obtain ⟨hclosed, hall, hwritten⟩ := ih h
      refine ⟨hclosed, fun x hx => ?_, hwritten⟩
      rcases List.mem_cons.1 hx with rfl | hx
      · rfl
      · exact hall x hx
  | elsewhere haside hrest ih =>
      obtain ⟨more, hs, -⟩ := haside.session
      obtain ⟨hclosed, hall, hwritten⟩ := ih (by rw [hs]; exact h)
      exact ⟨hclosed, hall, hwritten.trans haside.written⟩

-- ================================================= up to the end

/-- A call on a session in use that tells its end has closed it, with
the reason it tells. -/
theorem closed_of_endsSession {before : List (Call × Reply)} {c : Call}
    {reply : Reply} {told : Option String}
    (hexplained : told = none → (w.session conn).Explained)
    (hplay : c.play conn w = (.done reply, w'))
    (hend : EndsSession before c reply told) :
    ∃ r, (w'.session conn).closed = some r ∧ (told = none ∨ told = some r) := by
  -- a session that is over repeats its reason; one that is not is over from
  -- this call on
  cases hclosed : (w.session conn).closed with
  | some r =>
      rw [play_of_closed hclosed] at hplay
      cases hend <;> cases hplay
      · exact ⟨_, hclosed, Or.inr rfl⟩
      · exact ⟨_, hclosed, Or.inr rfl⟩
      · exact ⟨_, hclosed, Or.inr rfl⟩
      · exact ⟨_, hclosed, Or.inl rfl⟩
  | none =>
      cases hend with
      | receive r =>
          exact ⟨r, (session_of_play hclosed hplay (by simp)).1, Or.inr rfl⟩
      | receiveWithin ms r =>
          exact ⟨r, (session_of_play hclosed hplay (by simp)).1, Or.inr rfl⟩
      | send text r =>
          exact ⟨r, (session_of_play hclosed hplay (by simp)).1, Or.inr rfl⟩
      | close reason _ =>
          rcases session_of_play_close hclosed (hexplained rfl hclosed) hplay
            with ⟨-, r, hr⟩ | ⟨⟨e, he⟩, -⟩
          · exact ⟨r, hr, Or.inl rfl⟩
          · cases he

/-- A call keeps the end of a session explained, unless it is a close
that fails. -/
theorem explained_of_play {c : Call} {reply : Reply}
    (hexplained : (w.session conn).Explained)
    (hplay : c.play conn w = (.done reply, w'))
    (hfails : ∀ reason e, (c, reply) ≠ (Call.close reason, Reply.failed e)) :
    (w'.session conn).Explained := by
  cases hclosed : (w.session conn).closed with
  | some r =>
      rw [play_of_closed hclosed] at hplay
      cases hplay
      exact hexplained
  | none =>
      -- a close looks at both guards, the other calls at the reason only
      by_cases hc : ∃ reason, c = .close reason
      · obtain ⟨reason, rfl⟩ := hc
        rcases session_of_play_close hclosed (hexplained hclosed) hplay
          with ⟨-, r, hr⟩ | ⟨⟨e, rfl⟩, -⟩
        · intro hnone
          rw [hr] at hnone
          cases hnone
        · exact absurd rfl (hfails reason e)
      · have hs := session_of_play hclosed hplay
          fun reason h => hc ⟨reason, h⟩
        intro _
        rw [hs.2]
        exact hexplained hclosed

/-- What is done elsewhere leaves an explained session explained. -/
theorem explained_elsewhere (haside : Elsewhere conn w w')
    (h : (w.session conn).Explained) : (w'.session conn).Explained := by
  obtain ⟨more, hs, -⟩ := haside.session
  rw [hs]
  exact h

/-- The end of a session stays explained along every course in which no
close fails. -/
theorem explained_of_course {calls : List (Call × Reply)}
    (hcourse : Course conn w calls w')
    (hfails : ∀ reason e, (Call.close reason, Reply.failed e) ∉ calls)
    (h : (w.session conn).Explained) : (w'.session conn).Explained := by
  -- on the course: each call keeps it, and so does what is done between two
  -- calls
  induction hcourse with
  | done w => exact h
  | call hplay hrest ih =>
      refine ih (fun reason e hx => ?_)
        (explained_of_play h hplay fun reason e hx => ?_)
      · exact hfails reason e (List.mem_cons_of_mem _ hx)
      · exact hfails reason e (by rw [← hx]; exact List.mem_cons_self)
  | elsewhere haside hrest ih =>
      exact ih hfails (explained_elsewhere haside h)

/-- A session in use is explained, since it can be written to. -/
theorem explained_of_inUse {s : Session} (h : s.isOver = false) :
    s.Explained := by
  intro hnone
  unfold Session.isOver at h
  rw [hnone] at h
  simpa using h

-- ====================================================== the conclusion

/-- From the call that ends a session on, the session is over with one
reason: the one that the call told, if it told one. Whatever course is
run after it, every call gives the reply of a session closed for that
reason, each further one would give it at once and change nothing, and
no frame is written. -/
theorem closed_for_good {w₀ w₁ w₂ : World} {before : List (Call × Reply)}
    {c : Call} {reply : Reply} {told : Option String}
    (hstart : (w₀.session conn).isOver = false)
    (hbefore : Course conn w₀ before w₁)
    (hplay : c.play conn w₁ = (.done reply, w₂))
    (hend : EndsSession before c reply told) :
    ∃ r, (told = none ∨ told = some r)
      ∧ ∀ later w₃, Course conn w₂ later w₃ →
        (w₃.session conn).isOver = true
          ∧ (∀ x ∈ later, x.2 = x.1.whenClosed r)
          ∧ (∀ next : Call,
              next.play conn w₃ = (.done (next.whenClosed r), w₃))
          ∧ w₃.written conn = w₂.written conn := by
  -- only the reply of a close leaves the reason to the session
  have hexplained : told = none → (w₁.session conn).Explained := by
    intro htold
    cases hend with
    | receive r => cases htold
    | receiveWithin ms r => cases htold
    | send text r => cases htold
    | close reason hfails =>
        exact explained_of_course hbefore hfails (explained_of_inUse hstart)
  obtain ⟨r, hclosed, htold⟩ := closed_of_endsSession hexplained hplay hend
  refine ⟨r, htold, fun later w₃ hlater => ?_⟩
  obtain ⟨hclosed', hall, hwritten⟩ := course_of_closed hlater hclosed
  exact ⟨Session.isOver_of_closed hclosed', hall, play_of_closed hclosed',
    hwritten⟩

/-- A session on which a message has arrived, a close frame, and another
message after it. -/
def lateMessage : World where
  service := .none
  acts := []
  sessions := [{ Session.fresh "ws://h/v1/ws/c" "/v1/ws/c" with
    inbox := [.event (.text "first"), .event (.close none),
      .event (.text "late")] }]

/-- The message that came too late is never read: the second read tells
the end. -/
theorem late_message_lost :
    (lateMessage.session 0).isOver = false
      ∧ ∀ later w', Course 0
          (Call.receive.play 0 (Call.receive.play 0 lateMessage).2).2
          later w' →
        (Call.receive, Reply.heard (.message "late")) ∉ later := by
  let w := (Call.receive.play 0 lateMessage).2
  have hbefore : Course 0 lateMessage
      [(.receive, .heard (.message "first"))] w := .call rfl (.done _)
  have hplay : Call.receive.play 0 w
      = (.done (.heard (.closed "close frame")), (Call.receive.play 0 w).2) :=
    rfl
  obtain ⟨r, -, hfinal⟩ :=
    closed_for_good rfl hbefore hplay (.receive "close frame")
  refine ⟨rfl, fun later w' hlater hmem => ?_⟩
  have hreply := (hfinal later w' hlater).2.1 _ hmem
  cases hreply

end PairingHarness.Network
