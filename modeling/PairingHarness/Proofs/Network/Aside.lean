/-
Work on one session while another is in use.

A scenario has two sessions and works on them in turn. For the course of
the one, what it does on the other is nothing but waits, and sends of
the service: a read of another session is no call on this one
(`course_of_read`). So a run that goes back and forth is still one
course on each, put together from its parts (`Course.append`).

The scenarios relay from one session to the other, so each of their
statements has two courses in it, and this is where the second one comes
from. A message counts as sent when it was handed to `send` on the
session, which is what the claims about the order of messages are about;
whether the service got it is told by the reply.
-/
import PairingHarness.Proofs.Network.Course

namespace PairingHarness.Network

variable {w w₁ w' : World} {conn other : Nat}
  {calls calls' : List (Call × Reply)}

-- ====================================================== parts of a course

/-- One course after another is a course. -/
theorem Course.append (h : Course conn w calls w₁)
    (h' : Course conn w₁ calls' w') : Course conn w (calls ++ calls') w' := by
  induction h with
  | done w => exact h'
  | call hplay _ ih => exact .call hplay (ih h')
  | elsewhere haside _ ih => exact .elsewhere haside (ih h')

/-- A call that came back is a course of its own. -/
theorem course_of_play {c : Call} {reply : Reply}
    (h : c.play conn w = (.done reply, w')) :
    Course conn w [(c, reply)] w' :=
  .call h (.done w')

theorem course_of_wait (wait : Wait) (w : World) :
    Course conn w [] (w.perform (.waited wait)) :=
  .elsewhere (.acts _ (fun frame h => by cases h)) (.done _)

/-- What is changed of another session is nothing to this one. -/
theorem course_of_modify (hne : other ≠ conn) (f : Session → Session)
    (w : World) : Course conn w [] (w.modify other f) :=
  .elsewhere (.changes other f hne) (.done _)

/-- Nor is a frame written on another session, whatever the service sends in
return. -/
theorem course_of_wrote (hne : other ≠ conn) (frame : Outgoing)
    (w : World) : Course conn w [] (w.perform (.wrote other frame)) := by
  refine .elsewhere (.acts _ fun written heq => ?_) (.done _)
  cases heq
  exact hne rfl

-- ================================================ reads of another session

/-- What a read does once it has met an event: it may answer a close
frame, and it may close the session that it reads. -/
private theorem course_of_meet {e : Event} {o : Outcome Received}
    (hne : other ≠ conn) (h : Session.MeetEnds other e w (o, w')) :
    Course conn w [] w' := by
  cases h with
  | message _ => exact .done w
  | fails _ => exact .done w
  | closes _ hw =>
      rcases hw with rfl | ⟨frame, -, rfl⟩
      · exact course_of_modify hne _ _
      · exact (course_of_wrote hne _ w).append (course_of_modify hne _ _)

/-- A read that looks for an event of another session waits at most. -/
private theorem course_of_looks {wait : Wait} (hne : other ≠ conn)
    (h : Session.Looks other wait w w₁) : Course conn w [] w₁ := by
  rcases h with rfl | ⟨-, rfl⟩
  · exact .done w₁
  · exact (course_of_modify hne _ w).append (course_of_wait wait _)

/-- A read of another session is no call on this one. -/
theorem course_of_read {wait : Wait} {o : Outcome (Option Received)}
    (hne : other ≠ conn) (h : Session.read other wait w = (o, w')) :
    Course conn w [] w' := by
  cases hclosed : (w.session other).closed with
  | some r =>
      rw [Session.read_of_closed hclosed] at h
      cases h
      exact .done w
  | none =>
      have hends := Session.read_ends hclosed wait
      rw [h] at hends
      have htake : ∀ w₀ inbox,
          Course conn w₀ [] (Session.withInbox other inbox w₀) :=
        fun w₀ inbox => course_of_modify hne _ w₀
      cases hends with
      | met hlooks _ hm =>
          have hlook := course_of_looks hne hlooks
          exact hlook.append ((htake _ _).append (course_of_meet hne hm))
      | silent hnone _ =>
          have hlook : Course conn w [] (Session.afterWait other wait w) :=
            course_of_looks hne (Or.inr ⟨hnone, rfl⟩)
          exact hlook.append (htake _ _)

/-- A read of another session is no call on this one, however it ends. -/
theorem course_of_receive {o : Outcome Received} (hne : other ≠ conn)
    (h : Session.receive other w = (o, w')) : Course conn w [] w' := by
  obtain ⟨o', hread⟩ := Session.exists_read_of_receive h
  exact course_of_read hne hread

-- ============================================= writes on another session

/-- Nor is a message sent there, -/
theorem course_of_send {text : String} {o : Outcome Unit}
    (hne : other ≠ conn) (h : Session.send other text w = (o, w')) :
    Course conn w [] w' := by
  cases hclosed : (w.session other).closed with
  | some r =>
      rw [Session.send_of_closed hclosed] at h
      cases h
      exact .done w
  | none =>
      have hends := Session.send_ends hclosed text
      rw [h] at hends
      cases hends with
      | sent => exact course_of_wrote hne _ w
      | closes r => exact course_of_modify hne _ w
      | fails r => exact .done w

/-- nor a close. -/
theorem course_of_close {reason : String} {o : Outcome Unit}
    (hne : other ≠ conn) (h : Session.close other reason w = (o, w')) :
    Course conn w [] w' := by
  cases hover : (w.session other).isOver with
  | true =>
      rw [Session.close_of_over hover] at h
      cases h
      exact .done w
  | false =>
      have hends := Session.close_ends hover reason
      rw [h] at hends
      cases hends with
      | closed =>
          exact (course_of_wrote hne _ w).append (course_of_modify hne _ _)
      | gone r => exact course_of_modify hne _ w
      | fails r => exact course_of_modify hne _ w

-- ===================================================== a session left alone

/-- A session on which no call is made changes only by what arrives. -/
theorem session_of_idle (h : Course conn w [] w') :
    ∃ more, w'.session conn
      = { w.session conn with inbox := (w.session conn).inbox ++ more } := by
  generalize hcalls : ([] : List (Call × Reply)) = calls at h
  induction h with
  | done w => exact ⟨[], by rw [List.append_nil]⟩
  | call _ _ _ => cases hcalls
  | elsewhere haside _ ih =>
      obtain ⟨more, hs, -⟩ := haside.session
      obtain ⟨more', hs'⟩ := ih hcalls
      refine ⟨more ++ more', ?_⟩
      rw [hs', hs, List.append_assoc]

/-- Nothing is written on it. -/
theorem written_of_idle (h : Course conn w [] w') :
    w'.written conn = w.written conn := by
  generalize hcalls : ([] : List (Call × Reply)) = calls at h
  induction h with
  | done w => rfl
  | call _ _ _ => cases hcalls
  | elsewhere haside _ ih => exact (ih hcalls).trans haside.written

/-- It stays in use. -/
theorem inUse_of_idle (h : Course conn w [] w')
    (huse : (w.session conn).isOver = false) :
    (w'.session conn).isOver = false := by
  obtain ⟨more, hs⟩ := session_of_idle h
  rw [hs]
  exact huse

-- ====================================================== the messages sent

/-- The message that a call sends, if it is one that does. -/
def Call.message? : Call → Option String
  | .send text => some text
  | .receive | .receiveWithin _ | .close _ => none

/-- What is done on a connection from one world to another sends these
messages, each by one call that succeeds or fails. -/
def Sends (conn : Nat) (w : World) (messages : List String) (w' : World) :
    Prop :=
  ∃ calls, Course conn w calls w'
    ∧ calls.filterMap (fun call => call.1.message?) = messages

variable {messages messages' : List String}

/-- Messages sent one after another. -/
theorem Sends.append (h : Sends conn w messages w₁)
    (h' : Sends conn w₁ messages' w') :
    Sends conn w (messages ++ messages') w' := by
  obtain ⟨calls, hcourse, hsends⟩ := h
  obtain ⟨calls', hcourse', hsends'⟩ := h'
  refine ⟨calls ++ calls', hcourse.append hcourse', ?_⟩
  rw [List.filterMap_append, hsends, hsends']

theorem sends_nil (h : Course conn w [] w') : Sends conn w [] w' :=
  ⟨[], h, rfl⟩

/-- A call of `send` is a course with its one message, even where it failed.
-/
theorem sends_of_send {text : String} {o : Outcome Unit}
    (h : Session.send conn text w = (o, w')) : Sends conn w [text] w' := by
  cases o with
  | done u =>
      exact ⟨_, course_of_play (c := .send text) (answered_done h), rfl⟩
  | failed e =>
      exact ⟨_, course_of_play (c := .send text) (answered_failed h), rfl⟩
  | stalled => exact absurd h (Session.send_not_stalled text)

/-- A close sends no message. -/
theorem sends_of_close {reason : String} {o : Outcome Unit}
    (h : Session.close conn reason w = (o, w')) : Sends conn w [] w' := by
  cases o with
  | done u =>
      exact ⟨_, course_of_play (c := .close reason) (answered_done h), rfl⟩
  | failed e =>
      exact ⟨_, course_of_play (c := .close reason) (answered_failed h), rfl⟩
  | stalled => exact absurd h (Session.close_not_stalled reason)

end PairingHarness.Network
