/-
No session is left open by a scenario that passes.

Every scenario works on its sessions and hangs up at the end, on some of
them or on all. Up to there it closes none itself, whatever it meets
(`keeping_pair` and the rules after it). The sessions that it does not
hang up on have been checked to be over (`Leaves`), so at its return all
are over (`run_leaves_none_open`). What the last words on each were is
read off from whether its end was told before: if it was not, and the
transport still takes a frame, they are the goodbye; if it was, hanging
up adds nothing.

Only what passes is covered, as a scenario that fails returns at once
and leaves its sessions to be dropped with it, without a frame. `Leaves`
says for each session that is there at the end how it came to be over:
hung up on, or found over by a check.
-/
import PairingHarness.Proofs.Network.Keeping
import PairingHarness.Proofs.Scenario.MaxExchange
import PairingHarness.Proofs.Scenario.Pairing

namespace PairingHarness.Scenario

open Network

variable {c : Conditions} {kind : ScenarioKind} {w w₁ w₂ w' : World}
  {initiator peer conn : Nat} {conns : List Nat}

-- ======================================================= the statement

/-- The frame with which a scenario hangs up. -/
def goodbye : Outgoing :=
  .close (some ⟨1000, "Goodbye"⟩)

/-- How a scenario parts with a session: by closing it, or not at all
where it is over. -/
inductive Parts (conn : Nat) (w : World) : World → Prop where
  | hangsUp {w₁ w' : World} {o : Outcome Unit}
      (hclose : Session.close conn hangUpReason w = (o, w₁))
      (hidle : Course conn w₁ [] w') : Parts conn w w'
  | leaves (hover : (w.session conn).isOver = true) : Parts conn w w

/-- The sessions are kept up to some world, and then there is hanging up
on all of the new ones that are not over. -/
def Leaves (w w' : World) : Prop :=
  ∃ n conns w₁ o, Keeps n w w₁ ∧ conns.Nodup
    ∧ hangUp conns w₁ = (o, w')
    ∧ ∀ conn, w.sessions.length ≤ conn →
        (w₁.session conn).handshake ≠ none → conn ∉ conns →
        (w₁.session conn).isOver = true

-- ============================================== the parts of a scenario

theorem keeping_ensure (condition : Bool) (reason : String) :
    Keeping 0 (ensure condition reason) := by
  cases condition with
  | true => exact keeping_pure ()
  | false => exact keeping_fail _

theorem keeping_decodeRelay (text what : String) :
    Keeping 0 (decodeRelay text what) := by
  unfold decodeRelay
  cases RelayFrame.parse text with
  | ok frame => exact keeping_pure frame
  | error e => exact keeping_fail _

theorem keeping_expectRelay (conn : Nat) (what : String) :
    Keeping 0 (expectRelay conn what) := by
  refine keeping_then (keeping_receive conn) fun r => ?_
  cases r with
  | message text => exact keeping_decodeRelay text what
  | closed reason => exact keeping_fail _

theorem keeping_expectMessage (frame : RelayFrame)
    (expected context : String) :
    Keeping 0 (expectMessage frame expected context) :=
  keeping_ensure _ _

theorem keeping_tolerateClose {r : Run Unit} (h : Keeping 0 r) :
    Keeping 0 (tolerateClose r) := by
  refine keeping_then (keeping_attempt h) fun x => ?_
  cases x with
  | ok u => exact keeping_pure ()
  | error e => exact keeping_ite (keeping_pure ()) (keeping_fail e)

/-- A pair opens two sessions. -/
theorem keeping_pair (s : Settings) : Keeping 2 (pair s) := by
  have hpeer : ∀ x : Nat × Handshake,
      Keeping 1 (Session.connect (s.baseUrl ++ x.2.link)
        >>= fun y => Run.pure (x.1, y.1)) :=
    fun x => keeping_bind (keeping_connect _) fun y => keeping_pure _
  exact keeping_bind (keeping_connect _) hpeer

-- ================================================================ loops

theorem keeping_sendNumbered (initiator index limit : Nat) :
    Keeping 0 (sendNumbered initiator index limit) := by
  refine keeping_then (keeping_attempt (keeping_send _ _)) fun x => ?_
  cases x with
  | ok u => exact keeping_pure ()
  | error e => exact keeping_ite (keeping_ensure _ _) (keeping_fail e)

theorem keeping_exchangeNumbered (initiator peer limit index : Nat) :
    Keeping 0 (exchangeNumbered initiator peer limit index) := by
  refine keeping_then (keeping_sendNumbered _ _ _) fun _ => ?_
  refine keeping_then (keeping_receive peer) fun r => ?_
  cases r with
  | closed reason =>
      exact keeping_then (keeping_ensure _ _) fun _ => keeping_pure true
  | message text =>
      refine keeping_then (keeping_ensure _ _) fun _ => ?_
      refine keeping_then (keeping_decodeRelay _ _) fun frame => ?_
      exact keeping_then (keeping_expectMessage _ _ _)
        fun _ => keeping_pure false

/-- However long the series, it hangs up on nobody. -/
theorem keeping_exchangeFrom (initiator peer limit : Nat)
    (left index : Nat) :
    Keeping 0 (exchangeFrom initiator peer limit left index) := by
  induction left generalizing index with
  | zero =>
      refine keeping_then (keeping_exchangeNumbered _ _ _ _) fun ended => ?_
      cases ended <;> exact keeping_pure ()
  | succ left ih =>
      refine keeping_then (keeping_exchangeNumbered _ _ _ _) fun ended => ?_
      cases ended with
      | true => exact keeping_pure ()
      | false => exact ih (index + 1)

/-- What the peer hears after a message, and what is made of it. -/
theorem keeping_hears {β : Type} (c : Conditions) (peer : Nat)
    (x : Except Failure Unit) {f : Option Received → Run β}
    (hf : ∀ received, Keeping 0 (f received)) :
    Keeping 0 (match x with
      | .ok () => (some <$> Session.receive peer) >>= f
      | .error e =>
        if e.isCloseSignal then
          Session.receiveWithin peer c.timing.closeGrace >>= f
        else Run.fail e >>= f) := by
  cases x with
  | ok u =>
      have hmap : Keeping 0 (some <$> Session.receive peer) :=
        keeping_then (keeping_receive peer) fun r => keeping_pure (some r)
      exact keeping_then hmap hf
  | error e =>
      exact keeping_ite (keeping_then (keeping_receiveWithin _ _) hf)
        (keeping_then (keeping_fail e) hf)

theorem keeping_exchangeOnce (c : Conditions)
    (initiator peer index : Nat) :
    Keeping 0 (exchangeOnce c initiator peer index) := by
  refine keeping_then (keeping_attempt (keeping_send _ _)) fun x => ?_
  refine keeping_hears c peer x fun received => ?_
  rcases received with _ | text | reason
  · exact keeping_fail _
  · refine keeping_then (keeping_decodeRelay _ _) fun frame => ?_
    exact keeping_then (keeping_expectMessage _ _ _)
      fun _ => keeping_pure false
  · exact keeping_pure true

/-- Nor does the series at an interval. -/
theorem keeping_exchangeUntilClosed (c : Conditions)
    (initiator peer startedAt left index : Nat) :
    Keeping 0 (exchangeUntilClosed c initiator peer startedAt left index) := by
  induction left generalizing index with
  | zero =>
      refine keeping_then (keeping_exchangeOnce _ _ _ _) fun ended => ?_
      cases ended with
      | true => exact keeping_pure ()
      | false =>
          refine keeping_then (keeping_pause _) fun _ => ?_
          exact keeping_get_bind fun _ => keeping_fail _
  | succ left ih =>
      refine keeping_then (keeping_exchangeOnce _ _ _ _) fun ended => ?_
      cases ended with
      | true => exact keeping_pure ()
      | false => exact keeping_then (keeping_pause _) fun _ => ih (index + 1)

-- ========================================================== hanging up

/-- A session that is not hung up on is left alone. -/
theorem hangUp_other {o : Outcome Unit} (hnot : conn ∉ conns)
    (h : hangUp conns w = (o, w')) : Course conn w [] w' := by
  induction conns generalizing w with
  | nil =>
      cases h
      exact .done _
  | cons other rest ih =>
      cases hclose : Session.close other hangUpReason w with
      | mk o₁ w₁ =>
          rw [hangUp_cons hclose] at h
          have hne : other ≠ conn := fun heq => hnot (by simp [heq])
          have hrest : conn ∉ rest := fun hmem => hnot (by simp [hmem])
          exact (course_of_close hne hclose).append (ih hrest h)

/-- One that is hung up on is closed once, and left alone before and
after. -/
theorem hangUp_own {o : Outcome Unit} (hmem : conn ∈ conns)
    (hnodup : conns.Nodup) (h : hangUp conns w = (o, w')) :
    ∃ w₁, Course conn w [] w₁ ∧ Parts conn w₁ w' := by
  induction conns generalizing w with
  | nil => cases hmem
  | cons other rest ih =>
      rw [List.nodup_cons] at hnodup
      cases hclose : Session.close other hangUpReason w with
      | mk o₁ w₁ =>
          rw [hangUp_cons hclose] at h
          by_cases hconn : other = conn
          · subst hconn
            exact ⟨w, .done w, .hangsUp hclose (hangUp_other hnodup.1 h)⟩
          · have hrest : conn ∈ rest := by
              rcases List.mem_cons.1 hmem with heq | hmem
              · exact absurd heq.symm hconn
              · exact hmem
            obtain ⟨w₂, hidle, hparts⟩ := ih hrest hnodup.2 h
            exact ⟨w₂, (course_of_close hconn hclose).append hidle, hparts⟩

-- ====================================================== each scenario

/-- After a pair has been at work there are no new sessions but the two
of the pair. -/
theorem mem_of_pair (hpair : pair c.settings w = (.done (initiator, peer), w₁))
    (hwork : Keeps 0 w₁ w₂) (hnew : w.sessions.length ≤ conn)
    (hopened : (w₂.session conn).handshake ≠ none) :
    conn = initiator ∨ conn = peer := by
  obtain ⟨hinitiator, hpeer, hlen⟩ := numbers_of_pair hpair
  have hlt := lt_of_handshake hopened
  have hopens := hwork.opens
  omega

/-- A pair of which both are hung up on. -/
theorem leaves_both {o : Outcome Unit}
    (hpair : pair c.settings w = (.done (initiator, peer), w₁))
    (hwork : Keeps 0 w₁ w₂)
    (hhang : hangUp [initiator, peer] w₂ = (o, w')) : Leaves w w' := by
  have hne := ne_of_pair hpair
  refine ⟨_, _, w₂, o, ((keeping_pair _).done hpair).trans hwork, ?_, hhang,
    fun conn hnew hopened hnot => ?_⟩
  · simp [hne.symm]
  · rcases mem_of_pair hpair hwork hnew hopened with rfl | rfl
    · simp at hnot
    · simp at hnot

/-- A pair of which the peer is over and the initiator is hung up on. -/
theorem leaves_initiator {o : Outcome Unit}
    (hpair : pair c.settings w = (.done (initiator, peer), w₁))
    (hwork : Keeps 0 w₁ w₂) (hover : (w₂.session peer).isOver = true)
    (hhang : hangUp [initiator] w₂ = (o, w')) : Leaves w w' := by
  refine ⟨_, _, w₂, o, ((keeping_pair _).done hpair).trans hwork, by simp,
    hhang, fun conn hnew hopened hnot => ?_⟩
  rcases mem_of_pair hpair hwork hnew hopened with rfl | rfl
  · simp at hnot
  · exact hover

theorem leaves_of_simpleRelay (h : simpleRelay c w = (.done (), w')) :
    Leaves w w' := by
  obtain ⟨⟨initiator, peer⟩, w₁, hpair, h⟩ := Run.bind_eq_done h
  obtain ⟨_, w₂, hsend, h⟩ := Run.bind_eq_done h
  obtain ⟨frame, w₃, hrelay, h⟩ := Run.bind_eq_done h
  obtain ⟨_, w₄, hmessage, hhang⟩ := Run.bind_eq_done h
  have hsent := (keeping_send _ _).done hsend
  have hheard := (keeping_expectRelay _ _).done hrelay
  have hcompared := (keeping_expectMessage _ _ _).done hmessage
  exact leaves_both hpair ((hsent.trans hheard).trans hcompared) hhang

/-- Both sessions of an exchange are hung up on, the peer's first. -/
theorem leaves_of_fullExchange (h : fullExchange c w = (.done (), w')) :
    Leaves w w' := by
  obtain ⟨⟨initiator, peer⟩, w₁, hpair, h⟩ := Run.bind_eq_done h
  obtain ⟨_, w₂, hsend, h⟩ := Run.bind_eq_done h
  obtain ⟨intro, w₃, hrelay, h⟩ := Run.bind_eq_done h
  obtain ⟨_, w₄, hmessage, h⟩ := Run.bind_eq_done h
  obtain ⟨_, w₅, hsend', h⟩ := Run.bind_eq_done h
  obtain ⟨frame, w₆, hrelay', h⟩ := Run.bind_eq_done h
  obtain ⟨_, w₇, hmessage', h⟩ := Run.bind_eq_done h
  obtain ⟨_, w₈, hremote, hhang⟩ := Run.bind_eq_done h
  have hintro : Keeps 0 w₁ w₄ :=
    (((keeping_send _ _).done hsend).trans
      ((keeping_expectRelay _ _).done hrelay)).trans
      ((keeping_expectMessage _ _ _).done hmessage)
  have hpayload : Keeps 0 w₄ w₇ :=
    (((keeping_send _ _).done hsend').trans
      ((keeping_expectRelay _ _).done hrelay')).trans
      ((keeping_expectMessage _ _ _).done hmessage')
  have hensure := (keeping_ensure _ _).done hremote
  exact leaves_both hpair ((hintro.trans hpayload).trans hensure) hhang

/-- A check that a session is over changes nothing and finds it so. -/
theorem expectClosed_eq_done {reason : String}
    (h : expectClosed conn reason w = (.done (), w')) :
    (w.session conn).isOver = true ∧ w' = w := by
  unfold expectClosed at h
  rw [Run.bind_done (Session.isClosed_apply conn w)] at h
  exact ensure_eq_done h

/-- The peer that heard its end is over, and the initiator is hung up on. -/
theorem leaves_of_maxData (h : maxData c w = (.done (), w')) :
    Leaves w w' := by
  obtain ⟨limit, w₀, hlimit, hrest⟩ := Run.bind_eq_done h
  obtain ⟨-, rfl⟩ := Run.ofExcept_eq_done hlimit
  obtain ⟨⟨initiator, peer⟩, w₁, hpair, hrest⟩ := Run.bind_eq_done hrest
  obtain ⟨_, w₂, hsend, hrest⟩ := Run.bind_eq_done hrest
  obtain ⟨_, w₃, hpause, hrest⟩ := Run.bind_eq_done hrest
  obtain ⟨heard, w₄, hread, hrest⟩ := Run.bind_eq_done hrest
  have hwork : Keeps 0 w₁ w₄ :=
    (((keeping_tolerateClose (keeping_send _ _)).done hsend).trans
      ((keeping_pause _).done hpause)).trans
      ((keeping_receiveWithin _ _).done hread)
  -- what is heard is no message, and then the peer is checked
  have hend : (do
      expectClosed peer "Receiver did not close"
      hangUp [initiator] : Run Unit) w₄ = (.done (), w') := by
    rcases heard with _ | text | reason
    · exact hrest
    · cases hrest
    · exact hrest
  obtain ⟨_, w₅, hcheck, hhang⟩ := Run.bind_eq_done hend
  obtain ⟨hover, rfl⟩ := expectClosed_eq_done hcheck
  exact leaves_initiator hpair hwork hover hhang

theorem leaves_of_maxExchange (h : maxExchange c w = (.done (), w')) :
    Leaves w w' := by
  obtain ⟨limit, w₀, hlimit, hrest⟩ := Run.bind_eq_done h
  obtain ⟨-, rfl⟩ := Run.ofExcept_eq_done hlimit
  obtain ⟨⟨initiator, peer⟩, w₁, hpair, hrest⟩ := Run.bind_eq_done hrest
  obtain ⟨_, w₂, hloop, hrest⟩ := Run.bind_eq_done hrest
  obtain ⟨_, w₃, hcheck, hhang⟩ := Run.bind_eq_done hrest
  obtain ⟨hover, rfl⟩ := expectClosed_eq_done hcheck
  exact leaves_initiator hpair
    ((keeping_exchangeFrom _ _ _ _ _).done hloop) hover hhang

theorem leaves_of_maxPeriod (h : maxPeriod c w = (.done (), w')) :
    Leaves w w' := by
  obtain ⟨⟨initiator, peer⟩, w₁, hpair, hrest⟩ := Run.bind_eq_done h
  obtain ⟨_, _, hget, hrest⟩ := Run.bind_eq_done hrest
  cases hget
  obtain ⟨_, w₂, hloop, hrest⟩ := Run.bind_eq_done hrest
  obtain ⟨_, w₃, hcheck, hhang⟩ := Run.bind_eq_done hrest
  obtain ⟨hover, rfl⟩ := expectClosed_eq_done hcheck
  exact leaves_initiator hpair
    ((keeping_exchangeUntilClosed _ _ _ _ _ _).done hloop) hover hhang

/-- An intruder that passes the check is over. -/
theorem expectIntruderClosed_eq_done {intruder : Nat}
    (h : expectIntruderClosed c intruder w = (.done (), w')) :
    Keeps 0 w w' ∧ (w'.session intruder).isOver = true := by
  obtain ⟨heard, w₁, hread, hrest⟩ := Run.bind_eq_done h
  rcases heard with _ | text | reason
  · cases hrest
  · cases hrest
  · obtain ⟨hover, rfl⟩ := expectClosed_eq_done hrest
    exact ⟨(keeping_receiveWithin _ _).done hread, hover⟩

/-- An intruder is over, or was never let in. -/
theorem leaves_of_badChannel (h : badChannel c w = (.done (), w')) :
    Leaves w w' := by
  obtain ⟨⟨initiator, handshake⟩, w₁, hfirst, hchecked⟩ := Run.bind_eq_done h
  obtain ⟨_, _, hensure, hopen⟩ := Run.bind_eq_done hchecked
  obtain ⟨-, rfl⟩ := ensure_eq_done hensure
  obtain ⟨attempt, w₂, hattempt, hend⟩ := Run.bind_eq_done hopen
  obtain ⟨hinitiator, hlen⟩ := Session.number_of_connect hfirst
  have hkeeps := keeps_of_connect hfirst
  -- the intruder was let in, and its session ended; or it was not, and only
  -- the first session is left
  rcases Run.attempt_eq_done hattempt
    with ⟨⟨intruder, handshake'⟩, hconnect, rfl⟩ | ⟨e, hconnect, rfl⟩
  · obtain ⟨_, w₃, hcheck, hhang⟩ := Run.bind_eq_done hend
    obtain ⟨hwork, hover⟩ := expectIntruderClosed_eq_done hcheck
    obtain ⟨hintruder, hlen'⟩ := Session.number_of_connect hconnect
    have hall := (hkeeps.trans (keeps_of_connect hconnect)).trans hwork
    refine ⟨_, _, w₃, _, hall, by simp, hhang,
      fun conn hnew hopened hnot => ?_⟩
    have hlt := lt_of_handshake hopened
    have hopens := hall.opens
    have hne : conn ≠ initiator := by simpa using hnot
    have hconn : conn = intruder := by omega
    rw [hconn]
    exact hover
  · have hall := hkeeps.trans (keeps_of_connectFailed hconnect)
    -- a pass means that the attempt was closed or refused
    have hhang : hangUp [initiator] w₂ = (.done (), w') := by
      cases e with
      | closed reason => exact hend
      | refused status => exact hend
      | _ => cases hend
    refine ⟨_, _, w₂, _, hall, by simp, hhang,
      fun conn hnew hopened hnot => ?_⟩
    have hne : conn ≠ initiator := by simpa using hnot
    exact absurd (handshake_of_connectFailed hconnect (by omega)) hopened

/-- Whichever scenario passes, nothing is left open. -/
theorem leaves_of_play (h : play c kind w = (.done (), w')) :
    Leaves w w' := by
  cases kind with
  | simpleRelay => exact leaves_of_simpleRelay h
  | fullExchange => exact leaves_of_fullExchange h
  | maxData => exact leaves_of_maxData h
  | maxExchange => exact leaves_of_maxExchange h
  | maxPeriod => exact leaves_of_maxPeriod h
  | badChannel => exact leaves_of_badChannel h

-- ======================================================== the last words

/-- A session that was parted with is over. -/
theorem Parts.isOver (h : Parts conn w w') :
    (w'.session conn).isOver = true := by
  cases h with
  | hangsUp hclose hidle =>
      obtain ⟨more, hs⟩ := session_of_idle hidle
      rw [hs]
      exact isOver_of_close hclose
  | leaves hover => exact hover

/-- Nothing is written on one that was over. -/
theorem Parts.written (h : Parts conn w w')
    (hover : (w.session conn).isOver = true) :
    w'.written conn = w.written conn := by
  cases h with
  | hangsUp hclose hidle =>
      rw [Session.close_of_over hover] at hclose
      cases hclose
      exact written_of_idle hidle
  | leaves _ => rfl

/-- The goodbye is written on one that was not, if the transport takes
it. -/
theorem Parts.written_goodbye (h : Parts conn w w')
    (huse : (w.session conn).isOver = false) :
    (Session.CanWrite conn goodbye w →
        w'.written conn = goodbye :: w.written conn)
      ∧ (¬Session.CanWrite conn goodbye w →
        w'.written conn = w.written conn) := by
  cases h with
  | hangsUp hclose hidle =>
      rw [written_of_idle hidle]
      exact written_of_close huse hclose
  | leaves hover =>
      rw [hover] at huse
      cases huse

theorem Parts.handshake (h : Parts conn w w') :
    (w'.session conn).handshake = (w.session conn).handshake := by
  cases h with
  | hangsUp hclose hidle =>
      exact (handshake_of_course hidle).trans (handshake_of_close hclose)
  | leaves _ => rfl

/-- Every new session with a handshake is talked on since it was opened,
and then parted with. -/
theorem parts_of_leaves (h : Leaves w w') (hnew : w.sessions.length ≤ conn)
    (hopened : (w'.session conn).handshake ≠ none) :
    ∃ w₁ w₂, Begins conn w w₁ ∧ Talks conn w₁ w₂ ∧ Parts conn w₂ w' := by
  obtain ⟨n, conns, w₂, o, hkeeps, hnodup, hhang, hleft⟩ := h
  by_cases hmem : conn ∈ conns
  · obtain ⟨w₃, hidle, hparts⟩ := hangUp_own hmem hnodup hhang
    rw [hparts.handshake, handshake_of_course hidle] at hopened
    obtain ⟨w₁, hbegins, htalks⟩ := hkeeps.begins conn hnew hopened
    exact ⟨w₁, w₃, hbegins, htalks.trans (talks_of_idle hidle), hparts⟩
  · have hidle := hangUp_other hmem hhang
    rw [handshake_of_course hidle] at hopened
    obtain ⟨w₁, hbegins, htalks⟩ := hkeeps.begins conn hnew hopened
    obtain ⟨more, hs⟩ := session_of_idle hidle
    have hover := hleft conn hnew hopened hmem
    exact ⟨w₁, w', hbegins, htalks.trans (talks_of_idle hidle),
      .leaves (by rw [hs]; exact hover)⟩

-- ======================================================== the conclusion

/-- When a run passes, every session that it opened is over. It was
talked on from its opening and then parted with, and what was written on
it until then are messages, and answers to close frames if its end was
told. If the end was not told, the last that is written is the goodbye,
unless a reset has arrived or the transport refuses it; if it was,
parting writes nothing. -/
theorem run_leaves_none_open (hrun : run c kind w = (.done (), w'))
    (hnew : w.sessions.length ≤ conn)
    (hopened : (w'.session conn).handshake ≠ none) :
    (w'.session conn).isOver = true
      ∧ ∃ w₁ calls w₂, Begins conn w w₁ ∧ Course conn w₁ calls w₂
        ∧ Talk calls ∧ Parts conn w₂ w' ∧ Wrote (Told calls) conn w w₂
        ∧ (¬Told calls → Session.CanWrite conn goodbye w₂ →
            w'.written conn = goodbye :: w₂.written conn)
        ∧ (¬Told calls → ¬Session.CanWrite conn goodbye w₂ →
            w'.written conn = w₂.written conn)
        ∧ (Told calls → w'.written conn = w₂.written conn) := by
  obtain ⟨w₁, w₂, hbegins, ⟨calls, hcourse, htalk⟩, hparts⟩ :=
    parts_of_leaves (leaves_of_play (run_eq_done hrun)) hnew hopened
  have hbegins' := hbegins
  obtain ⟨url, handshake, w₀, hconnect, hwritten⟩ := hbegins
  have huse := Session.inUse_of_connect hconnect
  have hover := isOver_iff_told hcourse htalk huse
  have hopen : ¬Told calls → (w₂.session conn).isOver = false := by
    intro hnot
    rw [← Bool.not_eq_true, hover]
    exact hnot
  obtain ⟨frames, hframes, hall⟩ := wrote_of_talk hcourse htalk
    (Session.isOver_eq_false_iff.1 huse).1 (accounted_of_connect hconnect)
  rw [hwritten] at hframes
  exact ⟨hparts.isOver, w₁, calls, w₂, hbegins', hcourse, htalk, hparts,
    ⟨frames, hframes, hall⟩,
    fun hnot => (hparts.written_goodbye (hopen hnot)).1,
    fun hnot => (hparts.written_goodbye (hopen hnot)).2,
    fun htold => hparts.written (hover.2 htold)⟩

/-- Whether a run passes and leaves two sessions with these frames
written on them. -/
def leavesWritten (result : Outcome Unit × World)
    (first second : List Outgoing) : Bool :=
  (match result.1 with
    | .done _ => true
    | _ => false)
    && (result.2.session 0).handshake.isSome
    && (result.2.session 1).handshake.isSome
    && decide (result.2.written 0 = first)
    && decide (result.2.written 1 = second)

/-- After a run of one exchange both sessions are over. The initiator
was told no end and gets the goodbye; the peer was told one, and the
only close frame on it is the answer. -/
theorem relayingOnce_parted :
    ∃ w', run oneExchange .maxExchange (World.start relayingOnce)
        = (.done (), w')
      ∧ (w'.session 0).isOver = true ∧ (w'.session 1).isOver = true
      ∧ w'.written 0 = [goodbye, .text "This is message #1",
          .text "This is message #0"]
      ∧ w'.written 1 = [.close none] := by
  have hwritten : leavesWritten
      (run oneExchange .maxExchange (World.start relayingOnce))
      [goodbye, .text "This is message #1", .text "This is message #0"]
      [.close none] = true := by decide +kernel
  cases hrun : run oneExchange .maxExchange (World.start relayingOnce) with
  | mk o w' =>
      rw [hrun] at hwritten
      unfold leavesWritten at hwritten
      simp only [Bool.and_eq_true, decide_eq_true_eq] at hwritten
      obtain ⟨⟨⟨⟨hpass, hfirst⟩, hsecond⟩, hown⟩, hother⟩ := hwritten
      cases o with
      | failed e => cases hpass
      | stalled => cases hpass
      | done u =>
          have hopened : ∀ conn, (w'.session conn).handshake.isSome = true →
              (w'.session conn).isOver = true := fun conn hsome =>
            (run_leaves_none_open hrun (Nat.zero_le conn)
              (Option.isSome_iff_ne_none.1 hsome)).1
          exact ⟨w', rfl, hopened 0 hfirst, hopened 1 hsecond, hown, hother⟩

end PairingHarness.Scenario
