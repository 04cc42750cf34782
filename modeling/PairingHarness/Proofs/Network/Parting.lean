/-
Twins part when the end of the session is told.

A read of the session gives the same to twins and keeps them, or it
tells both of them the end (`couples_receive`). From there on nothing is
known of the two worlds but that the session is over in them. Opening
the session fails in both where its end is told before the handshake
(`couples_connect`).

`Couples` says how two runs from twins may compare. What it leaves open
are the failures that they may break off with when the end has been
told, and how they stand when they go on; a sequence goes on from either
(`couples_bind`).

The forms of an end differ in what they leave of a session: a close
frame is answered and the answer may fail, a reset leaves nothing to
answer. So the worlds of the two runs do part, by a frame that was
written or by what is still in the inbox, and no relation between whole
worlds could be kept beyond this point. That both sessions are over is
enough for all that comes after.
-/
import PairingHarness.Proofs.Network.Twin

namespace PairingHarness.Network

variable {conn : Nat} {w w' : World} {α β : Type} {r r' : Run α}
  {f : α → Run β}

-- ================================================== how two runs compare

/-- How two runs from twins compare: they are still in step, or the end
of the session was told in both and they stand as `stand` says, or both
have broken off with failures of the kind `breaks`. -/
inductive Couples (conn : Nat) (breaks : Failure → Prop)
    (stand : α → World → α → World → Prop) :
    Outcome α × World → Outcome α × World → Prop where
  | together {o : Outcome α} {w w' : World} (h : Twins conn w w') :
      Couples conn breaks stand (o, w) (o, w')
  | parted {a a' : α} {w w' : World} (h : stand a w a' w') :
      Couples conn breaks stand (.done a, w) (.done a', w')
  | broken {e e' : Failure} (w w' : World) (h : breaks e) (h' : breaks e') :
      Couples conn breaks stand (.failed e, w) (.failed e', w')

/-- Nobody goes on once the end has been told. -/
def Never (_ : α) (_ : World) (_ : α) (_ : World) : Prop :=
  False

/-- The session is over in both worlds. -/
def BothOver (conn : Nat) (w w' : World) : Prop :=
  (w.session conn).isOver = true ∧ (w'.session conn).isOver = true

/-- The failure tells that a session is over. -/
def IsClosed (e : Failure) : Prop :=
  ∃ reason, e = .closed reason

/-- What two attempts give where the runs themselves have parted. -/
inductive Attempted (breaks : Failure → Prop)
    (stand : α → World → α → World → Prop) :
    Except Failure α → World → Except Failure α → World → Prop where
  | ok {a a' : α} {w w' : World} (h : stand a w a' w') :
      Attempted breaks stand (.ok a) w (.ok a') w'
  | error {e e' : Failure} (w w' : World) (h : breaks e) (h' : breaks e') :
      Attempted breaks stand (.error e) w (.error e') w'

variable {breaks breaks' : Failure → Prop}
  {stand : α → World → α → World → Prop}
  {stand' : β → World → β → World → Prop}

/-- More failures may be allowed. -/
theorem Couples.weaken {x x' : Outcome α × World}
    (h : Couples conn breaks stand x x') (hall : ∀ e, breaks e → breaks' e) :
    Couples conn breaks' stand x x' := by
  cases h with
  | together htwins => exact .together htwins
  | parted hstand => exact .parted hstand
  | broken w w' he he' => exact .broken w w' (hall _ he) (hall _ he')

/-- A run in lockstep couples and leaves nothing open. -/
theorem Lockstep.couples (hr : Lockstep conn r) (h : Twins conn w w') :
    Couples conn breaks stand (r w) (r w') := by
  obtain ⟨o, w₁, w₁', hfirst, hsecond, htwins⟩ := hr.split h
  rw [hfirst, hsecond]
  exact .together htwins

/-- A sequence goes on in step, or from where the two have parted. -/
theorem couples_bind (hr : Couples conn breaks stand (r w) (r' w'))
    (hf : ∀ a w₁ w₁', r w = (.done a, w₁) → Twins conn w₁ w₁' →
      Couples conn breaks stand' (f a w₁) (f a w₁'))
    (hstand : ∀ a a' w₁ w₁', stand a w₁ a' w₁' →
      Couples conn breaks stand' (f a w₁) (f a' w₁')) :
    Couples conn breaks stand' ((r >>= f) w) ((r' >>= f) w') := by
  generalize hfirst : r w = x at hr
  generalize hsecond : r' w' = x' at hr
  cases hr with
  | @together o w₁ w₁' htwins =>
      cases o with
      | done a =>
          rw [Run.bind_done hfirst, Run.bind_done hsecond]
          exact hf a w₁ w₁' hfirst htwins
      | failed e =>
          rw [Run.bind_failed hfirst, Run.bind_failed hsecond]
          exact .together htwins
      | stalled =>
          rw [Run.bind_stalled hfirst, Run.bind_stalled hsecond]
          exact .together htwins
  | @parted a a' w₁ w₁' hparted =>
      rw [Run.bind_done hfirst, Run.bind_done hsecond]
      exact hstand a a' w₁ w₁' hparted
  | broken w₁ w₁' he he' =>
      rw [Run.bind_failed hfirst, Run.bind_failed hsecond]
      exact .broken w₁ w₁' he he'

/-- What goes on only as long as the two are in step. -/
theorem couples_bindNever (hr : Couples conn breaks Never (r w) (r w'))
    (hf : ∀ a w₁ w₁', r w = (.done a, w₁) → Twins conn w₁ w₁' →
      Couples conn breaks stand' (f a w₁) (f a w₁')) :
    Couples conn breaks stand' ((r >>= f) w) ((r >>= f) w') :=
  couples_bind hr hf fun _ _ _ _ hnever => hnever.elim

/-- A part that goes in step comes before the rest. -/
theorem couples_then (hr : Lockstep conn r) (h : Twins conn w w')
    (hf : ∀ a w₁ w₁', r w = (.done a, w₁) → Twins conn w₁ w₁' →
      Couples conn breaks stand' (f a w₁) (f a w₁')) :
    Couples conn breaks stand' ((r >>= f) w) ((r >>= f) w') :=
  couples_bindNever (hr.couples h) hf

/-- What is looked up in both worlds is the same. -/
theorem couples_get_bind {f : World → Run β} (hsame : f w' = f w)
    (hf : Couples conn breaks stand' (f w w) (f w w')) :
    Couples conn breaks stand' ((Run.get >>= f) w)
      ((Run.get >>= f) w') := by
  rw [Run.get_bind, Run.get_bind, hsame]
  exact hf

/-- An attempt breaks off with nothing. -/
theorem couples_attempt (hr : Couples conn breaks stand (r w) (r w')) :
    Couples conn breaks' (Attempted breaks stand) (r.attempt w)
      (r.attempt w') := by
  generalize hfirst : r w = x at hr
  generalize hsecond : r w' = x' at hr
  cases hr with
  | @together o w₁ w₁' htwins =>
      cases o with
      | done a =>
          rw [Run.attempt_done hfirst, Run.attempt_done hsecond]
          exact .together htwins
      | failed e =>
          rw [Run.attempt_failed hfirst, Run.attempt_failed hsecond]
          exact .together htwins
      | stalled =>
          rw [Run.attempt_stalled hfirst, Run.attempt_stalled hsecond]
          exact .together htwins
  | parted hparted =>
      rw [Run.attempt_done hfirst, Run.attempt_done hsecond]
      exact .parted (.ok hparted)
  | broken w₁ w₁' he he' =>
      rw [Run.attempt_failed hfirst, Run.attempt_failed hsecond]
      exact .parted (.error w₁ w₁' he he')

-- ============================================================= reading

/-- Two reads that tell the end. -/
inductive BothTold (conn : Nat) :
    Received → World → Received → World → Prop where
  | told {w w' : World} (reason reason' : String) (h : BothOver conn w w') :
      BothTold conn (.closed reason) w (.closed reason') w'

/-- The same of bounded reads. -/
inductive BothToldInTime (conn : Nat) :
    Option Received → World → Option Received → World → Prop where
  | told {r r' : Received} {w w' : World} (h : BothTold conn r w r' w') :
      BothToldInTime conn (some r) w (some r') w'

/-- Two events that are ends. -/
inductive BothEnds (conn : Nat) :
    Option Event → World → Option Event → World → Prop where
  | ends {e e' : Event} {w w' : World} (he : IsEnd e) (he' : IsEnd e')
      (hlt : conn < w.sessions.length) (hlt' : conn < w'.sessions.length) :
      BothEnds conn (some e) w (some e') w'

/-- Taking the first event. -/
theorem couples_takeEvent (h : Twins conn w w')
    (hlt : conn < w.sessions.length) :
    Couples conn breaks (BothEnds conn) (Session.takeEvent conn w)
      (Session.takeEvent conn w') := by
  have hlt' : conn < w'.sessions.length := h.lengths.symm ▸ hlt
  have hclosed := (h.pending hlt).1
  have hown : ∀ inbox, ({ w'.session conn with inbox := inbox } : Session)
      = { w.session conn with inbox := inbox } := by
    intro inbox
    rw [h.own]
  have hfirst := (h.inboxes hlt).first
  unfold Session.takeEvent
  generalize hinbox : (w.session conn).inbox = inbox at hfirst
  generalize hinbox' : (w'.session conn).inbox = inbox' at hfirst
  -- the two inboxes hold nothing, the same first event, or two ends; only
  -- then do the worlds part
  cases hfirst with
  | none hq =>
      rw [Session.firstEvent_eq_none_iff.2 hq]
      refine .together (h.modifyOwn hlt (noEnd_quiet hq) ⟨hclosed, ?_⟩ ?_ ?_)
      · rw [hinbox, List.append_nil]
      · rw [hinbox', List.append_nil]
      · exact hown []
  | @same quiet rest rest' e hq he =>
      rw [Session.firstEvent_quiet hq, Session.firstEvent_quiet hq]
      have htook : NoEnd (quiet ++ [.event e]) := by
        intro e' he'
        rcases List.mem_append.1 he' with he' | he'
        · exact noEnd_quiet hq e' he'
        · cases List.mem_singleton.1 he'
          exact he
      refine .together (h.modifyOwn hlt htook ⟨hclosed, ?_⟩ ?_ ?_)
      · rw [hinbox, List.append_assoc]
        rfl
      · rw [hinbox', List.append_assoc]
        rfl
      · exact hown rest'
  | @ends quiet rest rest' e e' hq he he' =>
      rw [Session.firstEvent_quiet hq, Session.firstEvent_quiet hq]
      refine .parted (.ends he he' ?_ ?_)
      · rw [World.modify_length]
        exact hlt
      · rw [World.modify_length]
        exact hlt'

/-- Meeting an end closes the session. -/
theorem meet_of_isEnd {e : Event} (he : IsEnd e)
    (hlt : conn < w.sessions.length) :
    ∃ r w₁, Session.meet conn e w = (.done (.closed r), w₁)
      ∧ (w₁.session conn).isOver = true := by
  obtain ⟨r, hends⟩ := he
  have hmeet := Session.meet_ends conn e w
  generalize Session.meet conn e w = result at hmeet
  cases hmeet with
  | message hg => cases gives_unique hg (.ends hends)
  | fails hg => cases gives_unique hg (.ends hends)
  | closes _ hw =>
      refine ⟨_, _, rfl, ?_⟩
      rcases hw with rfl | ⟨frame, -, rfl⟩
      · rw [World.session_modify hlt]
        rfl
      · rw [World.session_modify (by rw [World.perform_length]; exact hlt)]
        rfl

/-- Meeting any other event does nothing to the world. -/
theorem lockstep_meet_own {e : Event} (he : ¬IsEnd e) :
    Lockstep conn (Session.meet conn e) := by
  have hsame : ∀ w, ∃ x : Answered, Session.Gives e x
      ∧ Session.meet conn e w = (x.outcome, w) := by
    intro w
    have hmeet := Session.meet_ends conn e w
    generalize Session.meet conn e w = result at hmeet
    cases hmeet with
    | message hg => exact ⟨_, hg, rfl⟩
    | fails hg => exact ⟨_, hg, rfl⟩
    | closes hends _ => exact absurd ⟨_, hends⟩ he
  intro w w' h
  obtain ⟨x, hg, hmeet⟩ := hsame w
  obtain ⟨x', hg', hmeet'⟩ := hsame w'
  rw [hmeet, hmeet', gives_unique hg' hg]
  exact ⟨rfl, h⟩

/-- Two ends are met alike, whatever their forms. -/
theorem couples_meetEnds {e e' : Event} (he : IsEnd e) (he' : IsEnd e')
    (hlt : conn < w.sessions.length) (hlt' : conn < w'.sessions.length) :
    Couples conn breaks (BothTold conn) (Session.meet conn e w)
      (Session.meet conn e' w') := by
  obtain ⟨t, w₁, hmeet, hover⟩ := meet_of_isEnd he hlt
  obtain ⟨t', w₁', hmeet', hover'⟩ := meet_of_isEnd he' hlt'
  rw [hmeet, hmeet']
  exact .parted (.told t t' ⟨hover, hover'⟩)

/-- Twins that meet the same event on the session go on as twins, or the
event was the end and both are told. -/
theorem couples_meet {e : Event} (h : Twins conn w w')
    (hlt : conn < w.sessions.length) :
    Couples conn breaks (BothTold conn) (Session.meet conn e w)
      (Session.meet conn e w') := by
  by_cases he : IsEnd e
  · exact couples_meetEnds he he hlt (h.lengths.symm ▸ hlt)
  · exact (lockstep_meet_own he).couples h

/-- What is read is read in time. -/
theorem couples_inTime {r r' : Run Received}
    (hr : Couples conn breaks (BothTold conn) (r w) (r' w')) :
    Couples conn breaks (BothToldInTime conn)
      ((r >>= fun x => Run.pure (some x)) w)
      ((r' >>= fun x => Run.pure (some x)) w') :=
  couples_bind hr (fun _ _ _ _ h => .together h)
    fun _ _ _ _ htold => .parted (.told htold)

/-- Taking an event from an inbox opens nothing. -/
theorem takeEvent_length {x : Option Event}
    (h : Session.takeEvent conn w = (.done x, w')) :
    w'.sessions.length = w.sessions.length := by
  unfold Session.takeEvent at h
  cases hfirst : Session.firstEvent (w.session conn).inbox with
  | none =>
      rw [hfirst] at h
      cases h
      exact World.modify_length _
  | some y =>
      rw [hfirst] at h
      cases h
      exact World.modify_length _

/-- A look at what has arrived, and what is done where nothing has. -/
theorem couples_looks {rest : Run (Option Received)} (h : Twins conn w w')
    (hlt : conn < w.sessions.length)
    (hrest : ∀ w₁ w₁', w₁.sessions.length = w.sessions.length →
      Twins conn w₁ w₁' → Couples conn breaks (BothToldInTime conn)
        (rest w₁) (rest w₁')) :
    Couples conn breaks (BothToldInTime conn)
      ((Session.takeEvent conn >>= fun x => match x with
        | some e => Session.meet conn e >>= fun r => Run.pure (some r)
        | none => rest) w)
      ((Session.takeEvent conn >>= fun x => match x with
        | some e => Session.meet conn e >>= fun r => Run.pure (some r)
        | none => rest) w') := by
  refine couples_bind (couples_takeEvent h hlt)
    (fun x w₁ w₁' htake h₁ => ?_) fun x x' w₁ w₁' hends => ?_
  · have hlen := takeEvent_length htake
    cases x with
    | some e => exact couples_inTime (couples_meet h₁ (hlen ▸ hlt))
    | none => exact hrest w₁ w₁' hlen h₁
  · rcases hends with ⟨he, he', hlt, hlt'⟩
    exact couples_inTime (couples_meetEnds he he' hlt hlt')

/-- A read of the session comes to the same, or tells the end in both. -/
theorem couples_read (wait : Wait) (h : Twins conn w w') :
    Couples conn breaks (BothToldInTime conn) (Session.read conn wait w)
      (Session.read conn wait w') := by
  by_cases hlt : conn < w.sessions.length
  · have hclosed := (h.pending hlt).1
    have hclosed' : (w'.session conn).closed = none := by
      rw [h.own]
      exact hclosed
    unfold Session.read
    rw [Run.get_bind, Run.get_bind]
    simp only [hclosed, hclosed']
    refine couples_looks h hlt fun w₁ w₁' hlen h₁ => ?_
    refine couples_then (lockstep_wait wait) h₁ fun _ w₂ w₂' hwait h₂ => ?_
    have hlt₂ : conn < w₂.sessions.length := by
      cases hwait
      rw [World.perform_length, hlen]
      exact hlt
    exact couples_looks h₂ hlt₂ fun _ _ _ h₃ => .together h₃
  · -- there is no such session in either world
    have habsent : (w.session conn).closed = some "never opened" := by
      rw [World.session_of_le (Nat.le_of_not_lt hlt)]
      rfl
    have habsent' : (w'.session conn).closed = some "never opened" := by
      rw [h.own]
      exact habsent
    rw [Session.read_of_closed habsent, Session.read_of_closed habsent']
    exact .together h

/-- A read without a bound tells both the end or gives both the same. -/
theorem couples_receive (h : Twins conn w w') :
    Couples conn breaks (BothTold conn) (Session.receive conn w)
      (Session.receive conn w') := by
  refine couples_bind (couples_read _ h) (fun x w₁ w₁' _ h₁ => ?_)
    fun x x' w₁ w₁' htold => ?_
  · cases x with
    | some r => exact .together h₁
    | none => exact .together h₁
  · rcases htold with ⟨htold⟩
    exact .parted htold

-- ============================================================= opening

/-- Opening a session comes to the same, or fails where the session has
ended. -/
theorem couples_connect (url : String) (h : Twins conn w w') :
    Couples conn IsClosed Never (Session.connect url w)
      (Session.connect url w') := by
  refine couples_then (lockstep_dial url) h fun number w₁ w₁' _ h₁ => ?_
  by_cases hne : number = conn
  · subst hne
    refine couples_bind (couples_receive h₁)
      (fun r _ _ _ h₂ => (lockstep_welcome number r).couples h₂)
      fun r r' w₂ w₂' htold => ?_
    rcases htold with ⟨t, t', -⟩
    exact .broken w₂ w₂' ⟨t, rfl⟩ ⟨t', rfl⟩
  · exact (lockstep_bind (lockstep_receive hne)
      (lockstep_welcome number)).couples h₁

end PairingHarness.Network
