/-
Two runs that part where one session ends.

A service can end a session in any of the forms of `Session.Ends`. Take
one service and another that is the same but for the form in which it
ends one session, and for what it does on that session afterwards
(`Service.SameUntilEnd`). The runs that the harness makes with the two
are twins until it reads the end (`Twins`): they agree on all but what
lies in the inbox of that session from the end on.

What is done on other sessions, and outside of all sessions, keeps
twins and comes to the same in both (`Lockstep`).

Nothing is assumed of the service but that it is the same up to the end:
it may look at every act, and as the acts of the two runs are the same
until the end is read, it does the same in both. That is why the
relation speaks of what was sent and of the acts and not of how a
service comes to send it.
-/
import Mathlib.Data.List.Forall2
import PairingHarness.Proofs.Network.Keeping

namespace PairingHarness.Network

variable {conn other : Nat} {s s' : Service} {as as' bs bs' : List Arrival}
  {acts past : List Act}

-- ==================================================== alike up to an end

/-- An event that ends the session. -/
def IsEnd (e : Event) : Prop :=
  ∃ r, Session.Ends e r

/-- Arrivals of which none ends the session. -/
def NoEnd (as : List Arrival) : Prop :=
  ∀ e, .event e ∈ as → ¬IsEnd e

theorem noEnd_nil : NoEnd [] := fun e he => by cases he

/-- Pings and pongs end nothing. -/
theorem noEnd_quiet {quiet : List Arrival} (hq : Quiet quiet) :
    NoEnd quiet := by
  intro e he
  rcases hq _ he with heq | heq
  · cases heq
  · cases heq

/-- Arrivals that are the same up to the first end; the ends may differ,
and so may all that comes after them. -/
inductive SameUpToEnd : List Arrival → List Arrival → Prop where
  | nil : SameUpToEnd [] []
  | cons {as as' : List Arrival} (a : Arrival) :
      SameUpToEnd as as' → SameUpToEnd (a :: as) (a :: as')
  | ends {e e' : Event} (as as' : List Arrival) :
      IsEnd e → IsEnd e' → SameUpToEnd (.event e :: as) (.event e' :: as')

/-- What is the same up to an end, with more behind it that is: where an end
came, what follows does not matter. -/
theorem SameUpToEnd.append (h : SameUpToEnd as as')
    (h' : SameUpToEnd bs bs') : SameUpToEnd (as ++ bs) (as' ++ bs') := by
  induction h with
  | nil => exact h'
  | cons a _ ih => exact .cons a ih
  | ends as as' he he' => exact .ends _ _ he he'

/-- What comes after the same arrivals, with no end among them. -/
theorem SameUpToEnd.rest {taken : List Arrival} (hnone : NoEnd taken)
    (h : SameUpToEnd (taken ++ as) (taken ++ as')) : SameUpToEnd as as' := by
  induction taken with
  | nil => exact h
  | cons a taken ih =>
      cases h with
      | cons _ h =>
          apply ih (fun e he => ?_) h
          exact hnone e (List.mem_cons_of_mem _ he)
      | ends _ _ he _ => exact absurd he (hnone _ List.mem_cons_self)

/-- The first events of two such lists: none in either, the same that is
no end, or an end in both. -/
inductive FirstAlike : List Arrival → List Arrival → Prop where
  | none {quiet : List Arrival} : Quiet quiet → FirstAlike quiet quiet
  | same {quiet rest rest' : List Arrival} {e : Event} : Quiet quiet →
      ¬IsEnd e → FirstAlike (quiet ++ .event e :: rest)
        (quiet ++ .event e :: rest')
  | ends {quiet rest rest' : List Arrival} {e e' : Event} : Quiet quiet →
      IsEnd e → IsEnd e' → FirstAlike (quiet ++ .event e :: rest)
        (quiet ++ .event e' :: rest')

/-- A ping or a pong in front changes no first event. -/
theorem FirstAlike.cons_quiet {a : Arrival} (ha : a = .ping ∨ a = .pong)
    (h : FirstAlike as as') : FirstAlike (a :: as) (a :: as') := by
  have hcons : ∀ {quiet}, Quiet quiet → Quiet (a :: quiet) :=
    fun hq => List.forall_mem_cons.2 ⟨ha, hq⟩
  cases h with
  | none hq => exact .none (hcons hq)
  | same hq he => exact .same (hcons hq) he
  | ends hq he he' => exact .ends (hcons hq) he he'

/-- Arrivals that are the same up to an end have the same first event, or
ends as their first. -/
theorem SameUpToEnd.first (h : SameUpToEnd as as') : FirstAlike as as' := by
  have hnil : Quiet [] := fun a ha => by cases ha
  induction h with
  | nil => exact .none hnil
  | @cons as as' a _ ih =>
      cases a with
      | ping => exact ih.cons_quiet (Or.inl rfl)
      | pong => exact ih.cons_quiet (Or.inr rfl)
      | event e =>
          show FirstAlike ([] ++ .event e :: as) ([] ++ .event e :: as')
          by_cases he : IsEnd e
          · exact .ends hnil he he
          · exact .same hnil he
  | @ends e e' as as' he he' =>
      show FirstAlike ([] ++ .event e :: as) ([] ++ .event e' :: as')
      exact .ends hnil he he'

-- ==================================================== services alike

/-- No close frame was written on a connection. -/
def Unanswered (conn : Nat) (acts : List Act) : Prop :=
  ∀ frame, .wrote conn (.close frame) ∉ acts

/-- What the service has sent on a connection since it was opened. What
it sent before is lost. -/
def Service.live (s : Service) (conn : Nat) : List Act → List Arrival
  | [] => []
  | act :: past =>
    if conn < openings (act :: past) then
      s.live conn past ++ s.sendsOn conn (act :: past)
    else []

/-- Two services are the same but for one connection, and on that they
send the same up to the end. No more is asked of them than this, and
that only as long as no close frame was written there: the answer to the
close frame of the one has no counterpart where the other ends the
session without one. -/
structure Service.SameUntilEnd (conn : Nat) (s s' : Service) : Prop where
  answer : ∀ past url, Unanswered conn past →
    s'.answer past url = s.answer past url
  refuse : ∀ past other frame, Unanswered conn past → other ≠ conn →
    s'.refuse past other frame = s.refuse past other frame
  sends : ∀ acts other, Unanswered conn acts → other ≠ conn →
    s'.sendsOn other acts = s.sendsOn other acts
  own : ∀ acts, Unanswered conn acts →
    SameUpToEnd (s.live conn acts) (s'.live conn acts)

/-- Nothing is sent on a session that is not open yet. -/
theorem Service.live_of_le (h : openings acts ≤ conn) :
    s.live conn acts = [] := by
  cases acts with
  | nil => rfl
  | cons act past => exact if_neg (by omega)

/-- What was sent on a session grows act by act from when it was opened. -/
theorem Service.live_cons {act : Act} (h : conn < openings (act :: past)) :
    s.live conn (act :: past)
      = s.live conn past ++ s.sendsOn conn (act :: past) :=
  if_pos h

-- ================================================ ends in another form

/-- A delivery and what stands in its place: the same, or an end of the
session in another form. -/
inductive Reformed (conn : Nat) : Delivery → Delivery → Prop where
  | same (d : Delivery) : Reformed conn d d
  | ends {e e' : Event} : IsEnd e → IsEnd e' →
      Reformed conn ⟨conn, .event e⟩ ⟨conn, .event e'⟩

/-- Two services that are the same but for the forms in which they end
the session on a connection. -/
structure Service.EndsOtherwise (conn : Nat) (s s' : Service) : Prop where
  answer : s'.answer = s.answer
  refuse : s'.refuse = s.refuse
  sends : ∀ acts,
    List.Forall₂ (Reformed conn) (s.sends acts) (s'.sends acts)

/-- A service that ends one session otherwise sends the same on all others.
-/
theorem Service.EndsOtherwise.sendsOn_other (h : s.EndsOtherwise conn s')
    (hne : other ≠ conn) (acts : List Act) :
    s'.sendsOn other acts = s.sendsOn other acts := by
  have hsends := h.sends acts
  unfold Service.sendsOn
  generalize s.sends acts = ds at hsends
  generalize s'.sends acts = ds' at hsends
  induction hsends with
  | nil => rfl
  | @cons d _ _ _ hd _ ih =>
      cases hd with
      | same =>
          by_cases hon : d.conn = other
          · simp [hon, ih]
          · simp [hon, ih]
      | ends _ _ => simp [hne.symm, ih]

/-- On that session it sends the same up to the end, -/
theorem Service.EndsOtherwise.sendsOn_own (h : s.EndsOtherwise conn s')
    (acts : List Act) :
    SameUpToEnd (s.sendsOn conn acts) (s'.sendsOn conn acts) := by
  have hsends := h.sends acts
  unfold Service.sendsOn
  generalize s.sends acts = ds at hsends
  generalize s'.sends acts = ds' at hsends
  induction hsends with
  | nil => exact .nil
  | @cons d _ _ _ hd _ ih =>
      cases hd with
      | same =>
          by_cases hon : d.conn = conn
          · simpa [hon] using ih.cons d.arrival
          · simpa [hon] using ih
      | ends he he' => simpa using SameUpToEnd.ends _ _ he he'

/-- and so it is with all that was sent since the session was opened. -/
theorem Service.EndsOtherwise.live (h : s.EndsOtherwise conn s')
    (acts : List Act) :
    SameUpToEnd (s.live conn acts) (s'.live conn acts) := by
  induction acts with
  | nil => exact .nil
  | cons act past ih =>
      by_cases hlt : conn < openings (act :: past)
      · rw [Service.live_cons hlt, Service.live_cons hlt]
        exact ih.append (h.sendsOn_own _)
      · rw [Service.live_of_le (Nat.le_of_not_lt hlt),
          Service.live_of_le (Nat.le_of_not_lt hlt)]
        exact .nil

/-- Such services send the same up to the first end. -/
theorem Service.EndsOtherwise.sameUntilEnd (h : s.EndsOtherwise conn s') :
    s.SameUntilEnd conn s' where
  answer := fun past url _ => by rw [h.answer]
  refuse := fun past other frame _ _ => by rw [h.refuse]
  sends := fun acts other _ hne => h.sendsOn_other hne acts
  own := fun acts _ => h.live acts

/-- Whether an event ends the session. -/
def Event.endsSession : Event → Bool
  | .text payload => payload == ""
  | .binary payload => payload.isEmpty
  | .close _ => true
  | .violation _ => false
  | .ended => true
  | .reset => true

/-- Whether an event ends a session can be decided. -/
theorem endsSession_iff (e : Event) : e.endsSession = true ↔ IsEnd e := by
  constructor
  · intro h
    cases e with
    | text payload =>
        cases eq_of_beq h
        exact ⟨_, .emptyText⟩
    | binary payload =>
        cases List.isEmpty_iff.1 h
        exact ⟨_, .emptyBinary⟩
    | close frame => exact ⟨_, .closeFrame frame⟩
    | violation v => cases h
    | ended => exact ⟨_, .ended⟩
    | reset => exact ⟨_, .reset⟩
  · intro h
    obtain ⟨r, hends⟩ := h
    cases hends <;> rfl

instance : DecidablePred IsEnd :=
  fun e => decidable_of_iff _ (endsSession_iff e)

/-- A delivery with every end of the session turned into one form. -/
def Delivery.endingIn (conn : Nat) (form : Event) (d : Delivery) : Delivery :=
  match d.arrival with
  | .event e =>
    if d.conn = conn ∧ IsEnd e then ⟨conn, .event form⟩ else d
  | _ => d

/-- A service that ends the session in this form, wherever it ends it. -/
def Service.endingIn (s : Service) (conn : Nat) (form : Event) : Service :=
  { s with sends := fun acts => (s.sends acts).map (·.endingIn conn form) }

/-- An end put into another form is an end in that form. -/
theorem reformed_endingIn {form : Event} (hform : IsEnd form)
    (d : Delivery) : Reformed conn d (d.endingIn conn form) := by
  rcases d with ⟨on, a⟩
  cases a with
  | ping => exact .same _
  | pong => exact .same _
  | event e =>
      by_cases h : on = conn ∧ IsEnd e
      · obtain ⟨rfl, he⟩ := h
        have hform' : Delivery.endingIn on form ⟨on, .event e⟩
            = ⟨on, .event form⟩ := if_pos ⟨rfl, he⟩
        rw [hform']
        exact .ends he hform
      · have hsame : Delivery.endingIn conn form ⟨on, .event e⟩
            = ⟨on, .event e⟩ := if_neg h
        rw [hsame]
        exact .same _

/-- So there is for every service and every form another that ends the
session in that form. -/
theorem endsOtherwise_endingIn {form : Event} (hform : IsEnd form)
    (s : Service) : s.EndsOtherwise conn (s.endingIn conn form) where
  answer := rfl
  refuse := rfl
  sends := fun acts => by
    show List.Forall₂ (Reformed conn) (s.sends acts)
      ((s.sends acts).map (·.endingIn conn form))
    rw [List.forall₂_map_right_iff]
    exact List.forall₂_same.2 fun d _ => reformed_endingIn hform d

-- ================================================== acts of the harness

/-- Opening a session is counted, -/
theorem openings_opened (target : String) (past : List Act) :
    openings (.opened target :: past) = openings past + 1 :=
  List.countP_cons_of_pos rfl

/-- and nothing else is. -/
theorem openings_other {act : Act} (h : ∀ target, act ≠ .opened target) :
    openings (act :: past) = openings past := by
  cases act with
  | opened target => exact absurd rfl (h target)
  | wrote conn frame => exact List.countP_cons_of_neg (by simp)
  | waited wait => exact List.countP_cons_of_neg (by simp)

/-- An end stays unanswered while nothing but a close frame could answer it.
-/
theorem Unanswered.cons {act : Act} (h : Unanswered conn past)
    (hact : ∀ frame, act ≠ .wrote conn (.close frame)) :
    Unanswered conn (act :: past) := by
  intro frame hmem
  rcases List.mem_cons.1 hmem with heq | hmem
  · exact hact frame heq.symm
  · exact h frame hmem

-- ======================================================= worlds alike

/-- Two worlds in which the end of one session has not been read. They
differ in the service and in what lies in the inbox of that session, of
which the same has been taken in both, and no end. -/
structure Alike (conn : Nat) (w w' : World) : Prop where
  services : w.service.SameUntilEnd conn w'.service
  acts : w'.acts = w.acts
  unanswered : Unanswered conn w.acts
  lengths : w'.sessions.length = w.sessions.length
  others : ∀ other, other ≠ conn → w'.session other = w.session other
  own : w'.session conn
    = { w.session conn with inbox := (w'.session conn).inbox }
  pending : conn < w.sessions.length →
    (w.session conn).closed = none ∧ ∃ taken, NoEnd taken
      ∧ w.service.live conn w.acts = taken ++ (w.session conn).inbox
      ∧ w'.service.live conn w'.acts = taken ++ (w'.session conn).inbox

/-- The same where there is a session for each connection opened. -/
structure Twins (conn : Nat) (w w' : World) : Prop
    extends Alike conn w w' where
  counted : openings w.acts = w.sessions.length

variable {w w' : World}

/-- Worlds that are alike to begin with. -/
theorem twins_start (h : s.SameUntilEnd conn s') :
    Twins conn (World.start s) (World.start s') where
  services := h
  acts := rfl
  unanswered := fun frame hmem => by cases hmem
  counted := rfl
  lengths := rfl
  others := fun _ _ => rfl
  own := rfl
  pending := fun hlt => absurd hlt (Nat.not_lt_zero conn)

/-- What is in the two inboxes is the same up to the end. -/
theorem Twins.inboxes (h : Twins conn w w')
    (hlt : conn < w.sessions.length) :
    SameUpToEnd (w.session conn).inbox (w'.session conn).inbox := by
  obtain ⟨-, taken, hnone, hlive, hlive'⟩ := h.pending hlt
  have hown := h.services.own w.acts h.unanswered
  rw [h.acts] at hlive'
  rw [hlive, hlive'] at hown
  exact hown.rest hnone

/-- An act brings no session into being. -/
theorem session_perform_of_le (h : w.sessions.length ≤ other) (act : Act) :
    (w.perform act).session other = .absent := by
  rw [← World.perform_length act] at h
  exact World.session_of_le h

/-- After an act other sessions are the same. -/
theorem Alike.perform_other (h : Alike conn w w') {act : Act}
    (hacts : Unanswered conn (act :: w.acts)) (hne : other ≠ conn) :
    (w'.perform act).session other = (w.perform act).session other := by
  by_cases hlt : other < w.sessions.length
  · have hlt' : other < w'.sessions.length := h.lengths.symm ▸ hlt
    rw [World.session_perform hlt, World.session_perform hlt', h.acts,
      h.others other hne, h.services.sends _ other hacts hne]
  · have hle : w.sessions.length ≤ other := Nat.le_of_not_lt hlt
    have hle' : w'.sessions.length ≤ other := h.lengths.symm ▸ hle
    rw [session_perform_of_le hle, session_perform_of_le hle']

/-- The session itself is the same but for its inbox. -/
theorem Alike.perform_own (h : Alike conn w w') (act : Act) :
    (w'.perform act).session conn = { (w.perform act).session conn with
      inbox := ((w'.perform act).session conn).inbox } := by
  by_cases hlt : conn < w.sessions.length
  · have hlt' : conn < w'.sessions.length := h.lengths.symm ▸ hlt
    rw [World.session_perform hlt, World.session_perform hlt', h.own]
  · have hle : w.sessions.length ≤ conn := Nat.le_of_not_lt hlt
    have hle' : w'.sessions.length ≤ conn := h.lengths.symm ▸ hle
    rw [session_perform_of_le hle, session_perform_of_le hle']

/-- What the act brings goes behind what was not taken yet. -/
theorem Alike.perform_pending (h : Alike conn w w') {act : Act}
    (hopen : conn < openings (act :: w.acts))
    (hlt : conn < w.sessions.length) :
    ((w.perform act).session conn).closed = none ∧ ∃ taken, NoEnd taken
      ∧ w.service.live conn (act :: w.acts)
        = taken ++ ((w.perform act).session conn).inbox
      ∧ w'.service.live conn (act :: w.acts)
        = taken ++ ((w'.perform act).session conn).inbox := by
  have hlt' : conn < w'.sessions.length := h.lengths.symm ▸ hlt
  obtain ⟨hclosed, taken, hnone, hlive, hlive'⟩ := h.pending hlt
  rw [h.acts] at hlive'
  rw [World.session_perform hlt, World.session_perform hlt', h.acts,
    Service.live_cons hopen, Service.live_cons hopen, hlive, hlive']
  exact ⟨hclosed, taken, hnone, List.append_assoc _ _ _,
    List.append_assoc _ _ _⟩

/-- An act that is no close frame on the session. -/
theorem Alike.perform (h : Alike conn w w') {act : Act}
    (hclose : ∀ frame, act ≠ .wrote conn (.close frame))
    (hcounted : openings (act :: w.acts) = w.sessions.length) :
    Twins conn (w.perform act) (w'.perform act) := by
  have hacts := h.unanswered.cons hclose
  refine ⟨⟨?_, ?_, ?_, ?_, ?_, ?_, fun hlt => ?_⟩, ?_⟩
  · rw [World.perform_service, World.perform_service]
    exact h.services
  · rw [World.perform_acts, World.perform_acts, h.acts]
  · rw [World.perform_acts]
    exact hacts
  · rw [World.perform_length, World.perform_length, h.lengths]
  · exact fun other hne => h.perform_other hacts hne
  · exact h.perform_own act
  · rw [World.perform_length] at hlt
    rw [World.perform_acts, World.perform_acts, World.perform_service,
      World.perform_service, h.acts]
    exact h.perform_pending (hcounted.symm ▸ hlt) hlt
  · rw [World.perform_acts, World.perform_length]
    exact hcounted

/-- An act that opens nothing. -/
theorem Twins.perform (h : Twins conn w w') {act : Act}
    (hopened : ∀ target, act ≠ .opened target)
    (hclose : ∀ frame, act ≠ .wrote conn (.close frame)) :
    Twins conn (w.perform act) (w'.perform act) :=
  h.toAlike.perform hclose ((openings_other hopened).trans h.counted)

/-- A change of another session. -/
theorem Twins.modify (h : Twins conn w w') (hne : other ≠ conn)
    (f : Session → Session) :
    Twins conn (w.modify other f) (w'.modify other f) where
  services := h.services
  acts := h.acts
  unanswered := h.unanswered
  counted := h.counted.trans (World.modify_length f).symm
  lengths := by rw [World.modify_length, World.modify_length, h.lengths]
  others := fun third hthird => by
    by_cases heq : other = third
    · subst heq
      by_cases hlt : other < w.sessions.length
      · rw [World.session_modify hlt,
          World.session_modify (h.lengths.symm ▸ hlt), h.others other hthird]
      · have hle : w.sessions.length ≤ other := Nat.le_of_not_lt hlt
        have hle' : w'.sessions.length ≤ other := h.lengths.symm ▸ hle
        rw [← World.modify_length f] at hle hle'
        rw [World.session_of_le hle, World.session_of_le hle']
    · rw [World.session_modify_of_ne heq, World.session_modify_of_ne heq,
        h.others third hthird]
  own := by
    rw [World.session_modify_of_ne hne, World.session_modify_of_ne hne]
    exact h.own
  pending := fun hlt => by
    rw [World.modify_length] at hlt
    rw [World.session_modify_of_ne hne, World.session_modify_of_ne hne]
    exact h.pending hlt

/-- A change of the session itself that leaves its end open. The same is
taken from the two inboxes, and no end. -/
theorem Twins.modifyOwn (h : Twins conn w w') {f f' : Session → Session}
    {took : List Arrival} (hlt : conn < w.sessions.length)
    (hnone : NoEnd took)
    (hf : (f (w.session conn)).closed = none
      ∧ (w.session conn).inbox = took ++ (f (w.session conn)).inbox)
    (hf' : (w'.session conn).inbox = took ++ (f' (w'.session conn)).inbox)
    (hown : f' (w'.session conn) = { f (w.session conn) with
      inbox := (f' (w'.session conn)).inbox }) :
    Twins conn (w.modify conn f) (w'.modify conn f') where
  services := h.services
  acts := h.acts
  unanswered := h.unanswered
  counted := h.counted.trans (World.modify_length f).symm
  lengths := by rw [World.modify_length, World.modify_length, h.lengths]
  others := fun other hne => by
    rw [World.session_modify_of_ne hne.symm,
      World.session_modify_of_ne hne.symm, h.others other hne]
  own := by
    rw [World.session_modify hlt,
      World.session_modify (h.lengths.symm ▸ hlt)]
    exact hown
  pending := fun _ => by
    obtain ⟨-, taken, htaken, hlive, hlive'⟩ := h.pending hlt
    rw [World.session_modify hlt,
      World.session_modify (h.lengths.symm ▸ hlt)]
    refine ⟨hf.1, taken ++ took, fun e he => ?_, ?_, ?_⟩
    · rcases List.mem_append.1 he with he | he
      · exact htaken e he
      · exact hnone e he
    · rw [List.append_assoc, ← hf.2]
      exact hlive
    · rw [List.append_assoc, ← hf']
      exact hlive'

/-- Nothing that was sent before the opening counts. -/
theorem Twins.live_unopened (h : Twins conn w w')
    (hle : w.sessions.length ≤ conn) :
    w.service.live conn w.acts = [] ∧ w'.service.live conn w'.acts = [] := by
  have hopen : openings w.acts ≤ conn := h.counted ▸ hle
  rw [h.acts]
  exact ⟨Service.live_of_le hopen, Service.live_of_le hopen⟩

/-- One more session, of which nothing is known yet. -/
theorem Twins.add (h : Twins conn w w') (fresh : Session)
    (hopen : fresh.closed = none) (hempty : fresh.inbox = []) :
    Alike conn { w with sessions := w.sessions ++ [fresh] }
      { w' with sessions := w'.sessions ++ [fresh] } := by
  have hnew' := World.session_add fresh w'
  rw [h.lengths] at hnew'
  have hold' : ∀ {other}, other ≠ w.sessions.length → World.session
      { w' with sessions := w'.sessions ++ [fresh] } other
        = w'.session other := fun hne =>
    World.session_add_of_ne fresh (h.lengths.symm ▸ hne)
  refine ⟨h.services, h.acts, h.unanswered, ?_, fun other hne => ?_, ?_,
    fun hlt => ?_⟩
  · rw [List.length_append, List.length_append, h.lengths]
  · by_cases heq : other = w.sessions.length
    · rw [heq, World.session_add fresh w, hnew']
    · rw [World.session_add_of_ne fresh heq, hold' heq, h.others other hne]
  · by_cases heq : conn = w.sessions.length
    · rw [heq, World.session_add fresh w, hnew']
    · rw [World.session_add_of_ne fresh heq, hold' heq]
      exact h.own
  -- the session the twins differ in is this new one or an older one
  · by_cases heq : conn = w.sessions.length
    · obtain ⟨hlive, hlive'⟩ := h.live_unopened heq.symm.le
      subst heq
      rw [World.session_add fresh w, hnew', hempty]
      exact ⟨hopen, [], noEnd_nil, hlive, hlive'⟩
    · rw [List.length_append, List.length_singleton] at hlt
      rw [World.session_add_of_ne fresh heq, hold' heq]
      exact h.pending (by omega)

/-- Opening one more connection. -/
theorem Twins.register (h : Twins conn w w') (url target : String) :
    Twins conn (Session.register url target w)
      (Session.register url target w') := by
  refine (h.add (Session.fresh url target) rfl rfl).perform
    (fun frame heq => by cases heq) ?_
  show openings (.opened target :: w.acts)
    = (w.sessions ++ [Session.fresh url target]).length
  rw [openings_opened, h.counted, List.length_append, List.length_singleton]

-- ============================================================ in step

variable {α β : Type} {r : Run α} {f : α → Run β}

/-- A run that keeps twins and comes to the same in both. -/
def Lockstep (conn : Nat) (r : Run α) : Prop :=
  ∀ ⦃w w'⦄, Twins conn w w' →
    (r w').1 = (r w).1 ∧ Twins conn (r w).2 (r w').2

/-- What it comes to in both. -/
theorem Lockstep.split (hr : Lockstep conn r) (h : Twins conn w w') :
    ∃ o w₁ w₁', r w = (o, w₁) ∧ r w' = (o, w₁') ∧ Twins conn w₁ w₁' := by
  obtain ⟨ho, htwins⟩ := hr h
  exact ⟨(r w).1, (r w).2, (r w').2, rfl, Prod.ext ho rfl, htwins⟩

theorem lockstep_pure (a : α) : Lockstep conn (Run.pure a) :=
  fun _ _ h => ⟨rfl, h⟩

theorem lockstep_fail (e : Failure) : Lockstep conn (Run.fail e : Run α) :=
  fun _ _ h => ⟨rfl, h⟩

theorem lockstep_stall : Lockstep conn (Run.stall : Run α) :=
  fun _ _ h => ⟨rfl, h⟩

theorem lockstep_ofExcept (x : Except Failure α) :
    Lockstep conn (Run.ofExcept x) := by
  cases x with
  | ok a => exact lockstep_pure a
  | error e => exact lockstep_fail e

/-- Lockstep goes on from lockstep. -/
theorem lockstep_bind (hr : Lockstep conn r)
    (hf : ∀ a, Lockstep conn (f a)) : Lockstep conn (r >>= f) := by
  intro w w' h
  obtain ⟨o, w₁, w₁', hfirst, hsecond, htwins⟩ := hr.split h
  cases o with
  | done a =>
      rw [Run.bind_done hfirst, Run.bind_done hsecond]
      exact hf a htwins
  | failed e =>
      rw [Run.bind_failed hfirst, Run.bind_failed hsecond]
      exact ⟨rfl, htwins⟩
  | stalled =>
      rw [Run.bind_stalled hfirst, Run.bind_stalled hsecond]
      exact ⟨rfl, htwins⟩

/-- What is looked up in a world counts only as far as twins agree on
it. -/
theorem lockstep_get_bind {f : World → Run β}
    (hsame : ∀ w w', Twins conn w w' → f w' = f w)
    (hf : ∀ w, Lockstep conn (f w)) : Lockstep conn (Run.get >>= f) := by
  intro w w' h
  rw [Run.get_bind, Run.get_bind, hsame w w' h]
  exact hf w h

/-- A change that keeps twins is in lockstep, -/
theorem lockstep_change {g : World → World}
    (hg : ∀ w w', Twins conn w w' → Twins conn (g w) (g w')) :
    Lockstep conn (Run.change g) :=
  fun w w' h => ⟨rfl, hg w w' h⟩

/-- and so is an attempt at what is. -/
theorem lockstep_attempt (hr : Lockstep conn r) :
    Lockstep conn r.attempt := by
  intro w w' h
  obtain ⟨o, w₁, w₁', hfirst, hsecond, htwins⟩ := hr.split h
  cases o with
  | done a =>
      rw [Run.attempt_done hfirst, Run.attempt_done hsecond]
      exact ⟨rfl, htwins⟩
  | failed e =>
      rw [Run.attempt_failed hfirst, Run.attempt_failed hsecond]
      exact ⟨rfl, htwins⟩
  | stalled =>
      rw [Run.attempt_stalled hfirst, Run.attempt_stalled hsecond]
      exact ⟨rfl, htwins⟩

/-- A choice that both make in the same way. -/
theorem lockstep_ite {p : Prop} [Decidable p] {r' : Run α}
    (hr : Lockstep conn r) (hr' : Lockstep conn r') :
    Lockstep conn (if p then r else r') := by
  split
  · exact hr
  · exact hr'

/-- A wait is the same act in both, though what it brings to the session may
differ behind the end. -/
theorem lockstep_wait (wait : Wait) :
    Lockstep conn (Run.change fun w => w.perform (.waited wait)) :=
  lockstep_change fun _ _ h =>
    h.perform (fun _ heq => by cases heq) fun _ heq => by cases heq

-- ==================================================== on another session

/-- Writing on another session is in lockstep, since the service decides
about it in the same way. -/
theorem lockstep_write (hne : other ≠ conn) (frame : Outgoing) :
    Lockstep conn (Session.write other frame) := by
  intro w w' h
  unfold Session.write
  rw [h.others other hne, h.acts, h.services.refuse _ other _ h.unanswered hne]
  by_cases hreset : (w.session other).hasReset = true
  · rw [if_pos hreset, if_pos hreset]
    exact ⟨rfl, h⟩
  · rw [if_neg hreset, if_neg hreset]
    cases w.service.refuse w.acts other frame with
    | some fault => exact ⟨rfl, h⟩
    | none =>
        refine ⟨rfl, h.perform (fun _ heq => by cases heq) fun _ heq => ?_⟩
        cases heq
        exact hne rfl

theorem lockstep_markClosed (hne : other ≠ conn) (reason : String) :
    Lockstep conn (Session.markClosed other reason) :=
  fun _ _ h => ⟨rfl, h.modify hne _⟩

/-- So is a message there, -/
theorem lockstep_send (hne : other ≠ conn) (text : String) :
    Lockstep conn (Session.send other text) := by
  refine lockstep_get_bind (fun w w' h => ?_) fun w => ?_
  · rw [h.others other hne]
  · have hmark : ∀ reason, Lockstep conn (Session.markClosed other reason
        >>= fun r => (Run.fail (.closed r) : Run Unit)) := fun reason =>
      lockstep_bind (lockstep_markClosed hne reason)
        fun _ => lockstep_fail _
    cases hclosed : (w.session other).closed with
    | some reason =>
        simp only [hclosed]
        exact lockstep_fail _
    | none =>
        cases hwritable : (w.session other).writable with
        | false =>
            simp only [hclosed, hwritable, Bool.false_eq_true, if_false]
            exact hmark _
        | true =>
            simp only [hclosed, hwritable, if_true]
            refine lockstep_bind (lockstep_write hne _) fun fault => ?_
            rcases fault with _ | reason | reason
            · exact lockstep_pure ()
            · exact hmark _
            · exact lockstep_fail _

/-- and taking an event there, which lies in both inboxes, -/
theorem lockstep_takeEvent (hne : other ≠ conn) :
    Lockstep conn (Session.takeEvent other) := by
  intro w w' h
  unfold Session.takeEvent
  rw [h.others other hne]
  cases Session.firstEvent (w.session other).inbox with
  | none => exact ⟨rfl, h.modify hne _⟩
  | some x => exact ⟨rfl, h.modify hne _⟩

/-- and meeting it, -/
theorem lockstep_meet (hne : other ≠ conn) (e : Event) :
    Lockstep conn (Session.meet other e) := by
  have hmark : ∀ reason, Lockstep conn (Session.markClosed other reason
      >>= fun r => (Run.pure (.closed r) : Run Received)) := fun reason =>
    lockstep_bind (lockstep_markClosed hne reason) fun _ => lockstep_pure _
  cases e with
  | text payload =>
      by_cases hp : payload = ""
      · simp only [Session.meet, if_pos hp]
        exact hmark _
      · simp only [Session.meet, if_neg hp]
        exact lockstep_pure _
  | binary payload =>
      by_cases hp : payload.isEmpty = true
      · simp only [Session.meet, if_pos hp]
        exact hmark _
      · simp only [Session.meet, if_neg hp]
        cases Text.Utf8.decode payload with
        | ok text => exact lockstep_pure _
        | error fault => exact lockstep_fail _
  | close frame =>
      exact lockstep_bind (lockstep_write hne _) fun _ => hmark _
  | violation v => exact lockstep_fail _
  | ended => exact hmark _
  | reset => exact hmark _

/-- and a whole read. -/
theorem lockstep_read (hne : other ≠ conn) (wait : Wait) :
    Lockstep conn (Session.read other wait) := by
  have hmeet : ∀ e, Lockstep conn (Session.meet other e
      >>= fun a => (Run.pure (some a) : Run (Option Received))) := fun e =>
    lockstep_bind (lockstep_meet hne e) fun _ => lockstep_pure _
  refine lockstep_get_bind (fun w w' h => ?_) fun w => ?_
  · rw [h.others other hne]
  · cases (w.session other).closed with
    | some reason => exact lockstep_pure _
    | none =>
        refine lockstep_bind (lockstep_takeEvent hne) fun x => ?_
        cases x with
        | some e => exact hmeet e
        | none =>
            refine lockstep_bind (lockstep_wait wait) fun _ => ?_
            refine lockstep_bind (lockstep_takeEvent hne) fun x => ?_
            cases x with
            | some e => exact hmeet e
            | none => exact lockstep_pure _

/-- A read of another session gives both the same. -/
theorem lockstep_receive (hne : other ≠ conn) :
    Lockstep conn (Session.receive other) := by
  refine lockstep_bind (lockstep_read hne _) fun x => ?_
  cases x with
  | some received => exact lockstep_pure received
  | none => exact lockstep_stall

/-- Whether a session is over is the same for twins, this one included,
until its end is read. -/
theorem lockstep_isClosed (conn' : Nat) :
    Lockstep conn (Session.isClosed conn') := by
  refine lockstep_get_bind (fun w w' h => ?_) fun w => lockstep_pure _
  by_cases hne : conn' = conn
  · subst hne
    rw [h.own]
    rfl
  · rw [h.others conn' hne]

/-- Dialling comes to the same, whichever connection it opens. -/
theorem lockstep_dial (url : String) : Lockstep conn (Session.dial url) := by
  unfold Session.dial
  cases Url.parse url with
  | error fault => exact lockstep_fail _
  | ok address =>
      refine lockstep_get_bind (fun w w' h => ?_) fun w => ?_
      · rw [h.acts, h.services.answer _ _ h.unanswered, h.lengths]
      · cases w.service.answer w.acts address with
        | none => exact lockstep_fail _
        | some answer =>
            refine lockstep_bind (lockstep_change fun _ _ h =>
              h.register _ _) fun _ => ?_
            cases answer with
            | accepted => exact lockstep_pure _
            | status code =>
                by_cases hc : code = 101
                · simp only [if_pos hc]
                  exact lockstep_fail _
                · simp only [if_neg hc]
                  exact lockstep_fail _
            | defective defect => exact lockstep_fail _
            | reset => exact lockstep_fail _

-- ============================================================== opening

/-- Noting the handshake of a session. -/
theorem Twins.handshake (h : Twins conn w w') (number : Nat)
    (handshake : Handshake) :
    Twins conn
      (w.modify number fun s => { s with handshake := some handshake })
      (w'.modify number fun s => { s with handshake := some handshake }) := by
  by_cases hne : number = conn
  · subst hne
    by_cases hlt : number < w.sessions.length
    · refine h.modifyOwn hlt noEnd_nil ⟨(h.pending hlt).1, rfl⟩ rfl ?_
      rw [h.own]
    · have hle : w.sessions.length ≤ number := Nat.le_of_not_lt hlt
      rw [World.modify_of_le hle, World.modify_of_le (h.lengths.symm ▸ hle)]
      exact h
  · exact h.modify hne _

/-- What is made of the first that is read. -/
theorem lockstep_welcome (number : Nat) (received : Received) :
    Lockstep conn (match received with
      | .closed reason => Run.fail (.closed reason)
      | .message text => do
        let handshake ← Run.ofExcept (Handshake.parse text)
        Run.change fun w => w.modify number
          fun s => { s with handshake := some handshake }
        return (number, handshake) : Run (Nat × Handshake)) := by
  cases received with
  | closed reason => exact lockstep_fail _
  | message text =>
      refine lockstep_bind (lockstep_ofExcept _) fun handshake => ?_
      exact lockstep_bind
        (lockstep_change fun _ _ h => h.handshake number handshake)
        fun _ => lockstep_pure _

end PairingHarness.Network
