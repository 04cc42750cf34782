/-
Everything that is sent on a session is read once and in order.

`Yields` says what a sequence of arrivals gives to a reader, with no
reader in sight: one answer for every data message, up to the first end
of the session, pings and pongs left out. `delivered_in_order` says that
whatever mixture of reads, bounded reads and messages is made on a
session in use, the answers are the first of those, up to the end, and
what has not been answered is still there to be read. So nothing is
lost, given twice or out of order, and a bounded read that gives nothing
takes nothing.

The induction is over the course of calls. It is carried by one
equation, between all that was sent, what was answered, and what lies in
the inbox; each call moves the boundary between the last two by one
event or leaves it, and a wait moves what it brings to the end of the
inbox.
-/
import PairingHarness.Proofs.Network.Permanence

namespace PairingHarness.Network

-- ======================================================= the statement

/-- An answer to a reader: a message or the end, or a failure. -/
abbrev Answered := Except Failure Received

/-- The end of a run that comes to an answer. -/
def Answered.outcome : Answered → Outcome Received
  | .ok r => .done r
  | .error e => .failed e

/-- What a sequence of arrivals gives to a reader. -/
inductive Yields : List Arrival → List Answered → Prop where
  | nil : Yields [] []
  | ping {as : List Arrival} {xs : List Answered} :
      Yields as xs → Yields (.ping :: as) xs
  | pong {as : List Arrival} {xs : List Answered} :
      Yields as xs → Yields (.pong :: as) xs
  | event {e : Event} {x : Answered} {as : List Arrival}
      {xs : List Answered} :
      Session.Gives e x → (∀ r, x ≠ .ok (.closed r)) → Yields as xs →
      Yields (.event e :: as) (x :: xs)
  /-- Nothing is read after the end. -/
  | ends {e : Event} {r : String} (as : List Arrival) :
      Session.Ends e r → Yields (.event e :: as) [.ok (.closed r)]

/-- Answers up to the first end, the end included. -/
def upToEnd : List Answered → List Answered
  | [] => []
  | .ok (.closed r) :: _ => [.ok (.closed r)]
  | x :: xs => x :: upToEnd xs

/-- The answer in a reply. -/
def Reply.answer? : Reply → Option Answered
  | .heard r => some (.ok r)
  | .failed e => some (.error e)
  | .nothing | .fine => none

/-- The answers to calls, up to the first end. -/
def answers (calls : List (Call × Reply)) : List Answered :=
  upToEnd (calls.filterMap fun x => x.2.answer?)

/-- What a session still has to give: nothing once its end was told. -/
def Session.Pending (s : Session) (xs : List Answered) : Prop :=
  match s.closed with
  | none => Yields s.inbox xs
  | some _ => xs = []

/-- Both kinds of read give this answer at once and leave the same
world. -/
def ReadsAlike (conn : Nat) (w : World) (x : Answered) : Prop :=
  ∃ reply w', reply.answer? = some x
    ∧ Call.receive.play conn w = (.done reply, w')
    ∧ ∀ ms, (Call.receiveWithin ms).play conn w = (.done reply, w')

/-- The calls of a reader who may also send: both kinds of read, and
messages that are sent. -/
inductive Listens : Call × Reply → Prop where
  | receive (reply : Reply) : Listens (.receive, reply)
  | receiveWithin (ms : Nat) (reply : Reply) :
      Listens (.receiveWithin ms, reply)
  | send (text : String) : Listens (.send text, .fine)

-- ============================================================ arrivals

variable {w w' : World} {conn : Nat}

/-- Arrivals that a reader passes over. -/
def Quiet (as : List Arrival) : Prop :=
  ∀ a ∈ as, a = .ping ∨ a = .pong

/-- Pings and pongs after pings and pongs. -/
theorem Quiet.append {as bs : List Arrival} (ha : Quiet as)
    (hb : Quiet bs) : Quiet (as ++ bs) := by
  intro a h
  rcases List.mem_append.1 h with h | h
  · exact ha a h
  · exact hb a h

/-- In front of other arrivals they make no difference to a reader. -/
theorem yields_quiet {as bs : List Arrival} {xs : List Answered}
    (h : Quiet as) (hx : Yields bs xs) : Yields (as ++ bs) xs := by
  induction as with
  | nil => exact hx
  | cons a as ih =>
      have hrest := ih fun b hb => h b (List.mem_cons_of_mem _ hb)
      rcases h a List.mem_cons_self with rfl | rfl
      · exact .ping hrest
      · exact .pong hrest

/-- Where the first event stands. -/
theorem firstEvent_eq_some {as rest : List Arrival} {e : Event}
    (h : Session.firstEvent as = some (e, rest)) :
    ∃ quiet, Quiet quiet ∧ as = quiet ++ .event e :: rest := by
  induction as with
  | nil => cases h
  | cons a as ih =>
      cases a with
      | ping =>
          obtain ⟨quiet, hq, rfl⟩ := ih h
          exact ⟨.ping :: quiet, by simpa [Quiet] using hq, rfl⟩
      | pong =>
          obtain ⟨quiet, hq, rfl⟩ := ih h
          exact ⟨.pong :: quiet, by simpa [Quiet] using hq, rfl⟩
      | event e' =>
          cases h
          exact ⟨[], by simp [Quiet], rfl⟩

/-- Where there is no first event, nothing but pings and pongs has arrived.
-/
theorem firstEvent_eq_none {as : List Arrival}
    (h : Session.firstEvent as = none) : Quiet as := by
  induction as with
  | nil => simp [Quiet]
  | cons a as ih =>
      cases a with
      | ping => simpa [Quiet] using ih h
      | pong => simpa [Quiet] using ih h
      | event e => cases h

/-- Every event gives something. -/
theorem exists_gives (e : Event) : ∃ x, Session.Gives e x := by
  have h := Session.meet_ends 0 e (World.start .none)
  generalize Session.meet 0 e (World.start .none) = end_ at h
  cases h with
  | message h => exact ⟨_, h⟩
  | fails h => exact ⟨_, h⟩
  | closes h _ => exact ⟨_, .ends h⟩

/-- A read that meets an event ends in what the event gives. -/
theorem meet_of_gives {e : Event} {x : Answered} (h : Session.Gives e x)
    (conn : Nat) (w : World) : (Session.meet conn e w).1 = x.outcome := by
  cases h with
  | text h =>
      simp only [Session.meet, if_neg h]
      rfl
  | @binary text h =>
      have hne : ¬(Text.Utf8.encode text).isEmpty = true := by
        rw [List.isEmpty_iff, ← Text.Utf8.encode_empty]
        exact fun heq => h (Text.Utf8.encode_inj heq)
      have hok : Text.Utf8.decode (Text.Utf8.encode text) = .ok text :=
        Text.Utf8.decode_eq_ok_iff.2 rfl
      simp only [Session.meet, if_neg hne, hok]
      rfl
  | @notText payload fault h hf =>
      have hne : ¬payload.isEmpty = true := by
        rw [List.isEmpty_iff]
        exact h ""
      simp only [Session.meet, if_neg hne, hf]
      rfl
  | violation v => rfl
  | ends h =>
      cases h with
      | closeFrame frame =>
          simp only [Session.meet]
          rcases Session.write_cases conn
            (.close (frame.map Session.acceptedClose)) w with hw | ⟨_, hw⟩
          · rw [Run.bind_done hw]
            rfl
          · rw [Run.bind_done hw]
            rfl
      | emptyText => rfl
      | emptyBinary => rfl
      | ended => rfl
      | reset => rfl

/-- And nothing else. -/
theorem gives_unique {e : Event} {x y : Answered} (hx : Session.Gives e x)
    (hy : Session.Gives e y) : x = y := by
  have h := meet_of_gives hx 0 (World.start .none)
  rw [meet_of_gives hy] at h
  cases x <;> cases y <;> cases h <;> rfl

/-- Every sequence of arrivals gives something. -/
theorem exists_yields (as : List Arrival) : ∃ xs, Yields as xs := by
  induction as with
  | nil => exact ⟨[], .nil⟩
  | cons a as ih =>
      obtain ⟨xs, hx⟩ := ih
      cases a with
      | ping => exact ⟨xs, .ping hx⟩
      | pong => exact ⟨xs, .pong hx⟩
      | event e =>
          obtain ⟨x, hg⟩ := exists_gives e
          cases hg with
          | ends h => exact ⟨_, .ends as h⟩
          | text h => exact ⟨_, .event (.text h) (by simp) hx⟩
          | binary h => exact ⟨_, .event (.binary h) (by simp) hx⟩
          | notText h hf => exact ⟨_, .event (.notText h hf) (by simp) hx⟩
          | violation v => exact ⟨_, .event (.violation v) (by simp) hx⟩

/-- And only one thing. -/
theorem yields_unique {as : List Arrival} {xs ys : List Answered}
    (hx : Yields as xs) (hy : Yields as ys) : xs = ys := by
  induction hx generalizing ys with
  | nil =>
      cases hy
      rfl
  | ping _ ih =>
      cases hy with
      | ping hy => exact ih hy
  | pong _ ih =>
      cases hy with
      | pong hy => exact ih hy
  | event hg hne _ ih =>
      cases hy with
      | event hg' _ hy => rw [gives_unique hg hg', ih hy]
      | ends _ he => exact absurd (gives_unique hg (.ends he)) (hne _)
  | ends _ he =>
      cases hy with
      | event hg hne _ => exact absurd (gives_unique hg (.ends he)) (hne _)
      | ends _ he' => rw [gives_unique (.ends he) (.ends he')]

/-- The first answer is that of the first event. -/
theorem firstEvent_of_yields {as : List Arrival} {x : Answered}
    {xs : List Answered} (h : Yields as (x :: xs)) :
    ∃ e rest, Session.firstEvent as = some (e, rest)
      ∧ Session.Gives e x := by
  generalize hys : x :: xs = ys at h
  induction h with
  | nil => cases hys
  | ping _ ih => exact ih hys
  | pong _ ih => exact ih hys
  | event hg _ _ _ =>
      cases hys
      exact ⟨_, _, rfl, hg⟩
  | ends _ he =>
      cases hys
      exact ⟨_, _, rfl, .ends he⟩

-- ============================================================= one step

/-- How a call moves the boundary between what is answered and what is
still to be read: `more` is what was sent during the call, and the
answer is what the call came to, if anything. -/
inductive Takes (s s' : Session) (more : List Arrival) :
    Option Answered → Prop where
  | nothing {quiet : List Arrival} (hq : Quiet quiet)
      (h : s.inbox ++ more = quiet ++ s'.inbox) (hs : s'.closed = none) :
      Takes s s' more none
  | answer {quiet : List Arrival} {e : Event} {x : Answered}
      (hq : Quiet quiet) (h : s.inbox ++ more = quiet ++ .event e :: s'.inbox)
      (hg : Session.Gives e x) (hx : ∀ r, x ≠ .ok (.closed r))
      (hs : s'.closed = none) : Takes s s' more (some x)
  | ends {quiet rest : List Arrival} {e : Event} {r : String}
      (hq : Quiet quiet) (h : s.inbox ++ more = quiet ++ .event e :: rest)
      (he : Session.Ends e r) (hs : s'.closed = some r) :
      Takes s s' more (some (.ok (.closed r)))

/-- What a read came to, if anything. -/
def answerOf : Outcome (Option Received) → Option Answered
  | .done r => r.map .ok
  | .failed e => some (.error e)
  | .stalled => none

/-- A read that waits passes over all that was there, and what comes
during the wait is there after it. -/
theorem looks_quiet {wait : Wait} {w₀ : World}
    (h : Session.Looks conn wait w w₀) (hlt : conn < w.sessions.length) :
    ∃ quiet more, Quiet quiet
      ∧ (w.session conn).inbox ++ more = quiet ++ (w₀.session conn).inbox
      ∧ w₀.sent conn = w.sent conn ++ more := by
  rcases h with rfl | ⟨hnone, rfl⟩
  · exact ⟨[], [], by simp [Quiet], by simp, by simp⟩
  · refine ⟨_, _, firstEvent_eq_none hnone, ?_,
      World.sent_perform (.waited wait)⟩
    rw [Session.session_afterWait hlt]
    rfl

/-- A read takes what it answers from the front of the inbox and leaves the
rest, and whatever the service sent meanwhile is behind it. -/
theorem takes_of_read {wait : Wait} {o : Outcome (Option Received)}
    (h : (w.session conn).closed = none)
    (hr : Session.ReadEnds conn wait w (o, w')) :
    ∃ more, w'.sent conn = w.sent conn ++ more
      ∧ Takes (w.session conn) (w'.session conn) more (answerOf o) := by
  have hlt := World.lt_of_closed_eq_none h
  have hclosed := (hr.session h).1
  -- a read finds nothing at all, or an event after what it passes over
  cases hr with
  | silent hnone hsilent =>
      obtain ⟨quiet, more, hq, hinbox, hsent⟩ :=
        looks_quiet (Or.inr ⟨hnone, rfl⟩) hlt
      refine ⟨more, hsent, .nothing
        (hq.append (firstEvent_eq_none hsilent)) ?_ hclosed⟩
      rw [Session.session_withInbox
        (by rw [Session.afterWait_length]; exact hlt), hinbox]
      exact (List.append_nil _).symm
  | @met w₀ h₀ e rest he o w' hm =>
      obtain ⟨quiet, more, hq, hinbox, hsent⟩ := looks_quiet h₀ hlt
      obtain ⟨quiet', hq', hrest⟩ := firstEvent_eq_some he
      have hlt₀ := (h₀.session hlt).1
      have hrest' : ((Session.withInbox conn rest w₀).session conn).inbox
          = rest := by
        rw [Session.session_withInbox hlt₀]
      rw [hrest, ← List.append_assoc] at hinbox
      cases hm with
      | message hg =>
          refine ⟨more, hsent, .answer (hq.append hq') ?_ hg (by simp) hclosed⟩
          rw [hrest']
          exact hinbox
      | fails hg =>
          refine ⟨more, hsent, .answer (hq.append hq') ?_ hg (by simp) hclosed⟩
          rw [hrest']
          exact hinbox
      | closes hends hw =>
          rcases hw with rfl | ⟨frame, -, rfl⟩
          · exact ⟨more, hsent, .ends (hq.append hq') hinbox hends hclosed⟩
          · -- what comes in return for the answer comes after the end
            obtain ⟨extra, hextra⟩ : ∃ extra,
                ((Session.withInbox conn rest w₀).perform
                  (.wrote conn
                    (.close (frame.map Session.acceptedClose)))).sent conn
                  = w₀.sent conn ++ extra := ⟨_, World.sent_perform _⟩
            have hinbox' : (w.session conn).inbox ++ (more ++ extra)
                = quiet ++ quiet' ++ .event e :: (rest ++ extra) := by
              rw [← List.append_assoc, hinbox, List.append_assoc]
              rfl
            refine ⟨more ++ extra, ?_,
              .ends (hq.append hq') hinbox' hends hclosed⟩
            rw [← List.append_assoc, ← hsent]
            exact hextra

/-- The answer of a read is in its reply. -/
private theorem answerOf_eq {c : Call} {o : Outcome (Option Received)}
    {reply : Reply} (h : c.replyTo o = some reply) :
    answerOf o = reply.answer? := by
  cases o with
  | done r =>
      cases r with
      | some r =>
          cases h
          rfl
      | none =>
          unfold Call.replyTo at h
          by_cases hc : c = .receive
          · rw [if_pos hc] at h
            cases h
          · rw [if_neg hc] at h
            cases h
            rfl
  | failed e =>
      cases h
      rfl
  | stalled => cases h

/-- So every call takes what its reply answers, a message and a close
nothing. -/
theorem takes_of_play {c : Call} {reply : Reply}
    (h : (w.session conn).closed = none) (hl : Listens (c, reply))
    (hplay : c.play conn w = (.done reply, w')) :
    ∃ more, w'.sent conn = w.sent conn ++ more
      ∧ Takes (w.session conn) (w'.session conn) more reply.answer? := by
  cases hl with
  | receive =>
      obtain ⟨o, hr, ho⟩ := read_of_play rfl hplay
      rw [← answerOf_eq ho]
      exact takes_of_read h (hr ▸ Session.read_ends h _)
  | receiveWithin ms =>
      obtain ⟨o, hr, ho⟩ := read_of_play rfl hplay
      rw [← answerOf_eq ho]
      exact takes_of_read h (hr ▸ Session.read_ends h _)
  | send text =>
      have hends := Session.send_ends h text
      -- a sent text takes nothing off; what the service sends upon it comes
      -- last
      rcases answered_eq_done hplay with ⟨u, hs, -⟩ | ⟨e, -, he⟩
      · rw [hs] at hends
        cases hends
        have hsession := World.session_perform
          (World.lt_of_closed_eq_none h) (.wrote conn (.text text))
        have hq : Quiet [] := by simp [Quiet]
        refine ⟨_, World.sent_perform _, .nothing hq ?_ ?_⟩
        · rw [hsession]
          rfl
        · rw [hsession]
          exact h
      · cases he

-- ========================================================= whole courses

/-- An answer that is no end is followed by those after it. -/
theorem upToEnd_cons {x : Answered} (h : ∀ r, x ≠ .ok (.closed r))
    (xs : List Answered) : upToEnd (x :: xs) = x :: upToEnd xs := by
  cases x with
  | ok r =>
      cases r with
      | message text => rfl
      | closed r => exact absurd rfl (h r)
  | error e => rfl

/-- What the service sends on a session that is closed is lost, and
nothing else happens. -/
theorem sent_of_closed {r : String} {calls : List (Call × Reply)}
    (hcourse : Course conn w calls w')
    (h : (w.session conn).closed = some r) :
    ∃ since, w'.sent conn = w.sent conn ++ since := by
  induction hcourse with
  | done w => exact ⟨[], (List.append_nil _).symm⟩
  | call hplay _ ih =>
      rw [play_of_closed h] at hplay
      cases hplay
      exact ih h
  | elsewhere haside _ ih =>
      obtain ⟨more, hsent⟩ := haside.sent
      obtain ⟨_, hs, -⟩ := haside.session
      obtain ⟨since, hsince⟩ := ih (by rw [hs]; exact h)
      exact ⟨more ++ since, by rw [hsince, hsent, List.append_assoc]⟩

/-- What is in the inbox and what is sent during a course is answered in
its order, and what is not answered is still to be read. -/
theorem account {calls : List (Call × Reply)}
    (hcourse : Course conn w calls w')
    (h : (w.session conn).closed = none) (hl : ∀ x ∈ calls, Listens x) :
    ∃ since pending, w'.sent conn = w.sent conn ++ since
      ∧ Yields ((w.session conn).inbox ++ since) (answers calls ++ pending)
      ∧ (w'.session conn).Pending pending := by
  -- from the front: a call takes what it answers, and what it passes
  -- over, off the inbox that the rest of the course begins with
  induction hcourse with
  | done w =>
      obtain ⟨xs, hxs⟩ := exists_yields (w.session conn).inbox
      refine ⟨[], xs, (List.append_nil _).symm, ?_, ?_⟩
      · rw [List.append_nil]
        exact hxs
      · unfold Session.Pending
        rw [h]
        exact hxs
  | @call w w₁ w' c reply calls hplay hrest ih =>
      have hl' : ∀ x ∈ calls, Listens x :=
        fun x hx => hl x (List.mem_cons_of_mem _ hx)
      obtain ⟨more, hsent, htakes⟩ :=
        takes_of_play h (hl _ List.mem_cons_self) hplay
      unfold answers
      rw [List.filterMap_cons]
      generalize reply.answer? = answer at htakes
      cases htakes with
      | nothing hq hinbox hs =>
          obtain ⟨since, pending, hsince, hyields, hpending⟩ := ih hs hl'
          refine ⟨more ++ since, pending, ?_, ?_, hpending⟩
          · rw [hsince, hsent, List.append_assoc]
          · rw [← List.append_assoc, hinbox, List.append_assoc]
            exact yields_quiet hq hyields
      | answer hq hinbox hg hx hs =>
          obtain ⟨since, pending, hsince, hyields, hpending⟩ := ih hs hl'
          refine ⟨more ++ since, pending, ?_, ?_, hpending⟩
          · rw [hsince, hsent, List.append_assoc]
          · rw [← List.append_assoc, hinbox, List.append_assoc]
            refine yields_quiet hq ?_
            simp only [upToEnd_cons hx]
            exact .event hg hx hyields
      | ends hq hinbox he hs =>
          -- the rest of the course is that of a closed session, whose
          -- answers come after the first end and do not count
          obtain ⟨since, hsince⟩ := sent_of_closed hrest hs
          refine ⟨more ++ since, [], ?_, ?_, ?_⟩
          · rw [hsince, hsent, List.append_assoc]
          · rw [← List.append_assoc, hinbox, List.append_assoc]
            exact yields_quiet hq (.ends _ he)
          · unfold Session.Pending
            rw [(course_of_closed hrest hs).1]
  | elsewhere haside _ ih =>
      obtain ⟨more, hs, hmore⟩ := haside.session
      have hsent := hmore (World.lt_of_closed_eq_none h)
      obtain ⟨since, pending, hsince, hyields, hpending⟩ :=
        ih (by rw [hs]; exact h) hl
      refine ⟨more ++ since, pending, ?_, ?_, hpending⟩
      · rw [hsince, hsent, List.append_assoc]
      · rw [hs] at hyields
        rw [← List.append_assoc]
        exact hyields

/-- What is pending is read at once, by either kind of read. -/
theorem readsAlike_of_pending {x : Answered} {xs : List Answered}
    (h : (w.session conn).Pending (x :: xs)) : ReadsAlike conn w x := by
  unfold Session.Pending at h
  cases hclosed : (w.session conn).closed with
  | some r =>
      rw [hclosed] at h
      cases h
  | none =>
      rw [hclosed] at h
      obtain ⟨e, rest, he, hg⟩ := firstEvent_of_yields h
      have hread := Session.read_of_event hclosed he
      have hmeet := meet_of_gives hg conn (Session.withInbox conn rest w)
      rw [hmeet] at hread
      cases x with
      | ok r =>
          exact ⟨.heard r, _, rfl, play_of_read rfl (hread _),
            fun ms => play_of_read rfl (hread _)⟩
      | error e =>
          exact ⟨.failed e, _, rfl, play_of_read rfl (hread _),
            fun ms => play_of_read rfl (hread _)⟩

/-- Once the end was told, every read tells it. -/
theorem readsAlike_of_closed {r : String}
    (h : (w.session conn).closed = some r) :
    ReadsAlike conn w (.ok (.closed r)) :=
  ⟨.heard (.closed r), w, rfl, play_of_closed h .receive,
    fun ms => play_of_closed h (.receiveWithin ms)⟩

-- ========================================================= the conclusion

/-- Whatever mixture of reads and messages is made on a session in use,
the answers, up to the first end, are the first of what the inbox and
all that was sent since yield, and the rest is still pending. What is
pending is given next, by a read with a bound and by one without one
alike, and so is the end once it was told; a bounded read that gives
nothing is made only where nothing is pending. -/
theorem delivered_in_order {calls : List (Call × Reply)}
    (hopen : (w.session conn).closed = none)
    (hcourse : Course conn w calls w')
    (hlistens : ∀ x ∈ calls, Listens x) :
    ∃ since pending, w'.sent conn = w.sent conn ++ since
      ∧ Yields ((w.session conn).inbox ++ since) (answers calls ++ pending)
      ∧ (w'.session conn).Pending pending
      ∧ (∀ x xs, pending = x :: xs → ReadsAlike conn w' x)
      ∧ (∀ r, (w'.session conn).closed = some r →
          ReadsAlike conn w' (.ok (.closed r)))
      ∧ (∀ ms w'', (Call.receiveWithin ms).play conn w' = (.done .nothing, w'')
          → pending = []) := by
  obtain ⟨since, pending, hsent, hyields, hpending⟩ :=
    account hcourse hopen hlistens
  have hnext : ∀ x xs, pending = x :: xs → ReadsAlike conn w' x := by
    intro x xs h
    rw [h] at hpending
    exact readsAlike_of_pending hpending
  refine ⟨since, pending, hsent, hyields, hpending, hnext,
    fun r => readsAlike_of_closed, fun ms w'' hplay => ?_⟩
  cases hp : pending with
  | nil => rfl
  | cons x xs =>
      obtain ⟨reply, _, hreply, -, hwithin⟩ := hnext x xs hp
      rw [hwithin ms] at hplay
      cases hplay
      cases hreply

/-- A service that answers every message with a ping and a binary
frame, and one session with it on which a message has arrived. -/
def echoing : World where
  service := { Service.none with
    sends := fun
      | .wrote 0 (.text _) :: _ => [⟨0, .ping⟩, ⟨0, .event (.binary [98])⟩]
      | _ => [] }
  acts := []
  sessions := [{ Session.fresh "ws://h/v1/ws/c" "/v1/ws/c" with
    inbox := [.pong, .event (.text "a")] }]

/-- A message, its answer, and a wait in vain. -/
theorem echo_delivered :
    ∃ since pending,
      Yields ((echoing.session 0).inbox ++ since)
        ([.ok (.message "a"), .ok (.message "b")] ++ pending) := by
  let w₁ := ((Call.receiveWithin 5).play 0 echoing).2
  let w₂ := ((Call.send "x").play 0 w₁).2
  let w₃ := (Call.receive.play 0 w₂).2
  have hcourse : Course 0 echoing
      [(.receiveWithin 5, .heard (.message "a")), (.send "x", .fine),
        (.receive, .heard (.message "b")), (.receiveWithin 5, .nothing)]
      ((Call.receiveWithin 5).play 0 w₃).2 :=
    .call rfl (.call rfl (.call rfl (.call rfl (.done _))))
  obtain ⟨since, pending, -, hyields, -⟩ :=
    delivered_in_order rfl hcourse (by
      intro x hx
      simp only [List.mem_cons, List.not_mem_nil, or_false] at hx
      rcases hx with rfl | rfl | rfl | rfl
      · exact .receiveWithin 5 _
      · exact .send "x"
      · exact .receive _
      · exact .receiveWithin 5 _)
  exact ⟨since, pending, hyields⟩

end PairingHarness.Network
