/-
Runs that hang up on nobody.

Such a run may talk on the sessions there are and open new ones, up to
some number, and that is all (`Keeps`): on each session that it found it
talks on, and each that it opened with a handshake it has talked on
since. Steps of this kind put one after another are one of this kind
(`Keeps.trans`), so a run is shown to be one part by part, by a rule for
each way of putting runs together (`keeping_bind` and those beside it).

It is the negative of a farewell: all of a scenario but its last part is
a run that keeps, so when the last part hangs up on each session of the
pair, its close frame is the first that is written on it and the one
after which nothing is. A session on which the service closed first has
been answered by the read that told so, which is the exception that
`Talk` makes.
-/
import PairingHarness.Proofs.Network.Attempt
import PairingHarness.Proofs.Network.Talk

namespace PairingHarness.Network

variable {α β : Type} {w w₁ w' : World} {conn n m : Nat}

-- ============================================================= one step

/-- A session is opened on a connection after this world, and nothing
was written on the connection until then. -/
def Begins (conn : Nat) (w w₁ : World) : Prop :=
  ∃ url handshake w₀, Session.connect url w₀ = (.done (conn, handshake), w₁)
    ∧ w₁.written conn = w.written conn

/-- From one world to another at most so many sessions are opened, and
on no session there is a close. -/
structure Keeps (n : Nat) (w w' : World) : Prop where
  grows : w.sessions.length ≤ w'.sessions.length
  opens : w'.sessions.length ≤ w.sessions.length + n
  goesOn : ∀ conn < w.sessions.length, Talks conn w w'
  begins : ∀ conn, w.sessions.length ≤ conn →
    (w'.session conn).handshake ≠ none →
    ∃ w₁, Begins conn w w₁ ∧ Talks conn w₁ w'
  unborn : ∀ conn, w'.sessions.length ≤ conn →
    w'.written conn = w.written conn

/-- A session with a handshake is one that was opened. -/
theorem lt_of_handshake (h : (w.session conn).handshake ≠ none) :
    conn < w.sessions.length := by
  apply Classical.byContradiction
  intro hlt
  rw [World.session_of_le (by omega)] at h
  exact h rfl

/-- Talk changes no handshake. -/
theorem Talks.handshake (h : Talks conn w w') :
    (w'.session conn).handshake = (w.session conn).handshake := by
  obtain ⟨calls, hcourse, -⟩ := h
  exact handshake_of_course hcourse

/-- On a connection that does not exist nothing is written. -/
theorem Talks.unborn (h : Talks conn w w')
    (hle : w.sessions.length ≤ conn) : w'.written conn = w.written conn := by
  obtain ⟨calls, hcourse, -⟩ := h
  have hclosed : (w.session conn).closed = some "never opened" := by
    rw [World.session_of_le hle]
    rfl
  exact (course_of_closed hcourse hclosed).2.2

/-- What is done to the sessions there are. -/
theorem keeps_of_talks (hlen : w'.sessions.length = w.sessions.length)
    (htalks : ∀ conn, Talks conn w w') : Keeps 0 w w' where
  grows := Nat.le_of_eq hlen.symm
  opens := Nat.le_of_eq hlen
  goesOn := fun conn _ => htalks conn
  begins := fun conn hle hsome => by
    have hlt := lt_of_handshake hsome
    omega
  unborn := fun conn hle => (htalks conn).unborn (hlen ▸ hle)

theorem keeps_refl (w : World) : Keeps 0 w w :=
  keeps_of_talks rfl fun _ => talks_of_idle (.done w)

theorem Keeps.mono (h : Keeps n w w') (hle : n ≤ m) : Keeps m w w' :=
  ⟨h.grows, h.opens.trans (Nat.add_le_add_left hle _), h.goesOn, h.begins,
    h.unborn⟩

/-- What is kept by two runs is kept by one after the other: a session that
the first opened is one that the second found. -/
theorem Keeps.trans (h : Keeps n w w₁) (h' : Keeps m w₁ w') :
    Keeps (n + m) w w' where
  grows := h.grows.trans h'.grows
  opens := by
    have hopens := h.opens
    have hopens' := h'.opens
    omega
  goesOn := fun conn hlt =>
    (h.goesOn conn hlt).trans (h'.goesOn conn (hlt.trans_le h.grows))
  begins := fun conn hle hsome => by
    by_cases hlt : conn < w₁.sessions.length
    · -- opened by the first step, and talked on by both
      have htalks := h'.goesOn conn hlt
      rw [htalks.handshake] at hsome
      obtain ⟨w₀, hbegins, htalks₀⟩ := h.begins conn hle hsome
      exact ⟨w₀, hbegins, htalks₀.trans htalks⟩
    · have hle₁ : w₁.sessions.length ≤ conn := by omega
      obtain ⟨w₀, ⟨url, handshake, w₂, hconnect, hwritten⟩, htalks⟩ :=
        h'.begins conn hle₁ hsome
      exact ⟨w₀, ⟨url, handshake, w₂, hconnect,
        hwritten.trans (h.unborn conn hle₁)⟩, htalks⟩
  unborn := fun conn hle =>
    (h'.unborn conn hle).trans (h.unborn conn (h'.grows.trans hle))

-- ====================================================== putting together

/-- A run that keeps the sessions, however it ends. -/
def Keeping (n : Nat) (r : Run α) : Prop :=
  ∀ ⦃w o w'⦄, r w = (o, w') → o ≠ .stalled → Keeps n w w'

variable {r : Run α} {f : α → Run β}

theorem Keeping.done (h : Keeping n r) {a : α} (hr : r w = (.done a, w')) :
    Keeps n w w' :=
  h hr (by intro heq; cases heq)

theorem keeping_pure (a : α) : Keeping 0 (Run.pure a) := by
  intro w o w' h _
  cases h
  exact keeps_refl w

theorem keeping_fail (e : Failure) : Keeping 0 (Run.fail e : Run α) := by
  intro w o w' h _
  cases h
  exact keeps_refl w

theorem keeping_ofExcept (x : Except Failure α) :
    Keeping 0 (Run.ofExcept x) := by
  cases x with
  | ok a => exact keeping_pure a
  | error e => exact keeping_fail e

/-- A sequence keeps what its parts keep, and opens as many sessions as
both. -/
theorem keeping_bind (h : Keeping n r) (hf : ∀ a, Keeping m (f a)) :
    Keeping (n + m) (r >>= f) := by
  intro w o w' hrun hne
  cases hr : r w with
  | mk o₁ w₁ =>
      cases o₁ with
      | done a =>
          rw [Run.bind_done hr] at hrun
          exact (h.done hr).trans (hf a hrun hne)
      | failed e =>
          rw [Run.bind_failed hr] at hrun
          cases hrun
          exact (h hr (by intro heq; cases heq)).mono (Nat.le_add_right n m)
      | stalled =>
          rw [Run.bind_stalled hr] at hrun
          cases hrun
          exact absurd rfl hne

/-- A part that opens nothing comes before the rest. -/
theorem keeping_then (h : Keeping 0 r) (hf : ∀ a, Keeping n (f a)) :
    Keeping n (r >>= f) :=
  Nat.zero_add n ▸ keeping_bind h hf

/-- A choice keeps what both sides keep. -/
theorem keeping_ite {p : Prop} [Decidable p] {r' : Run α}
    (h : Keeping n r) (h' : Keeping n r') :
    Keeping n (if p then r else r') := by
  split
  · exact h
  · exact h'

/-- Looking at the outcome of a run changes nothing about it. -/
theorem keeping_attempt (h : Keeping n r) : Keeping n r.attempt := by
  intro w o w' hrun hne
  cases hr : r w with
  | mk o₁ w₁ =>
      cases o₁ with
      | done a =>
          rw [Run.attempt_done hr] at hrun
          cases hrun
          exact h.done hr
      | failed e =>
          rw [Run.attempt_failed hr] at hrun
          cases hrun
          exact h hr (by intro heq; cases heq)
      | stalled =>
          rw [Run.attempt_stalled hr] at hrun
          cases hrun
          exact absurd rfl hne

/-- So does looking at the world. -/
theorem keeping_get_bind {f : World → Run β} (hf : ∀ w, Keeping n (f w)) :
    Keeping n (Run.get >>= f) := by
  intro w o w' hrun hne
  exact hf w hrun hne

theorem keeping_pause (ms : Nat) : Keeping 0 (Run.pause ms) := by
  intro w o w' h _
  cases h
  exact keeps_of_talks (World.perform_length _)
    fun conn => talks_of_idle (course_of_wait _ w)

-- ======================================================= work on a session

/-- A call on one connection, as far as it is talk: on the others it is
none at all. -/
theorem keeps_of_call (hlen : w'.sessions.length = w.sessions.length)
    (hown : Talks conn w w')
    (hother : ∀ other, conn ≠ other → Course other w [] w') :
    Keeps 0 w w' := by
  refine keeps_of_talks hlen fun other => ?_
  by_cases hne : conn = other
  · exact hne ▸ hown
  · exact talks_of_idle (hother other hne)

/-- Sending is talk, -/
theorem keeping_send (conn : Nat) (text : String) :
    Keeping 0 (Session.send conn text) := by
  intro w o w' h hne
  refine keeps_of_call (Session.send_length h) ?_
    fun other hother => course_of_send hother h
  cases o with
  | done u =>
      exact talks_of_play (c := .send text) (answered_done h) (by simp)
  | failed e =>
      exact talks_of_play (c := .send text) (answered_failed h) (by simp)
  | stalled => exact absurd rfl hne

/-- and so is reading, -/
theorem keeping_receive (conn : Nat) : Keeping 0 (Session.receive conn) := by
  intro w o w' h hne
  obtain ⟨o', hread⟩ := Session.exists_read_of_receive h
  refine keeps_of_call (Session.read_length hread) ?_
    fun other hother => course_of_receive hother h
  cases o with
  | done r => exact talks_of_play (c := .receive) (answered_done h) (by simp)
  | failed e =>
      exact talks_of_play (c := .receive) (answered_failed h) (by simp)
  | stalled => exact absurd rfl hne

/-- with a bound as well. -/
theorem keeping_receiveWithin (conn ms : Nat) :
    Keeping 0 (Session.receiveWithin conn ms) := by
  intro w o w' h hne
  refine keeps_of_call (Session.read_length h) ?_
    fun other hother => course_of_read hother h
  cases o with
  | done r =>
      exact talks_of_play (c := .receiveWithin ms) (answered_done h) (by simp)
  | failed e =>
      exact talks_of_play (c := .receiveWithin ms) (answered_failed h)
        (by simp)
  | stalled => exact absurd rfl hne

-- ============================================================== opening

/-- The sessions that are there go on while another is registered. -/
theorem course_of_register (hlt : conn < w.sessions.length)
    (url target : String) :
    Course conn w [] (Session.register url target w) := by
  have hadds : Elsewhere conn w
      { w with sessions := w.sessions ++ [Session.fresh url target] } :=
    .adds _ hlt
  exact .elsewhere hadds
    (.elsewhere (.acts _ fun frame hact => by cases hact) (.done _))

/-- One more session is registered, of which nothing is known yet. -/
theorem keeps_register (url target : String) (w : World) :
    Keeps 1 w (Session.register url target w) where
  grows := by
    rw [Session.register_length]
    exact Nat.le_succ _
  opens := Nat.le_of_eq (Session.register_length url target w)
  goesOn := fun conn hlt => talks_of_idle (course_of_register hlt url target)
  begins := fun conn hle hsome => by
    have hlt := lt_of_handshake hsome
    rw [Session.register_length] at hlt
    have hconn : conn = w.sessions.length := by omega
    rw [hconn, (Session.session_register url target w).2] at hsome
    exact absurd rfl hsome
  unborn := fun conn _ => World.written_perform fun frame hact => by cases hact

/-- Dialling registers a session, or changes nothing. -/
theorem register_of_dial {url : String} {o : Outcome Nat}
    (h : Session.dial url w = (o, w')) :
    w' = w ∨ ∃ target, w' = Session.register url target w := by
  have hends := Session.dial_ends url w
  rw [h] at hends
  cases hends with
  | badAddress _ => exact Or.inl rfl
  | unreachable _ _ => exact Or.inl rfl
  | accepted _ _ => exact Or.inr ⟨_, rfl⟩
  | refused _ _ _ => exact Or.inr ⟨_, rfl⟩
  | unfulfilled _ _ => exact Or.inr ⟨_, rfl⟩
  | defective _ _ => exact Or.inr ⟨_, rfl⟩
  | reset _ _ => exact Or.inr ⟨_, rfl⟩

/-- Where a session could not be opened there was a reading of it at
most. -/
theorem dialled_of_connectFailed {url : String} {e : Failure}
    (h : Session.connect url w = (.failed e, w')) :
    ∃ w₁, (w₁ = w ∨ ∃ target, w₁ = Session.register url target w)
      ∧ Keeps 0 w₁ w' := by
  rcases Run.bind_eq_failed h with hdial | ⟨conn, w₁, hdial, h⟩
  · exact ⟨w', register_of_dial hdial, keeps_refl w'⟩
  · refine ⟨w₁, register_of_dial hdial, ?_⟩
    rcases Run.bind_eq_failed h with hreceive | ⟨r, w₂, hreceive, h⟩
    · exact keeping_receive conn hreceive (by intro heq; cases heq)
    · have hread := (keeping_receive conn).done hreceive
      cases r with
      | closed reason =>
          cases h
          exact hread
      | message text =>
          rcases Run.bind_eq_failed h with hparse | ⟨handshake, w₃, -, h⟩
          · exact hread.trans
              (keeping_ofExcept _ hparse (by intro heq; cases heq))
          · cases h

/-- A connect that failed leaves at most a session without a handshake. -/
theorem keeps_of_connectFailed {url : String} {e : Failure}
    (h : Session.connect url w = (.failed e, w')) : Keeps 1 w w' := by
  obtain ⟨w₁, hw₁, hread⟩ := dialled_of_connectFailed h
  rcases hw₁ with rfl | ⟨target, rfl⟩
  · exact hread.mono (Nat.zero_le 1)
  · exact (keeps_register url target w).trans hread

/-- No new session has a handshake then. -/
theorem handshake_of_connectFailed {url : String} {e : Failure}
    (h : Session.connect url w = (.failed e, w'))
    (hnew : w.sessions.length ≤ conn) :
    (w'.session conn).handshake = none := by
  obtain ⟨w₁, hw₁, hread⟩ := dialled_of_connectFailed h
  apply Classical.byContradiction
  intro hsome
  have hlt := lt_of_handshake hsome
  have hopens := hread.opens
  rcases hw₁ with rfl | ⟨target, rfl⟩
  · omega
  · have hlt₁ : conn < (Session.register url target w).sessions.length := by
      omega
    rw [(hread.goesOn conn hlt₁).handshake] at hsome
    rw [Session.register_length] at hlt₁
    have hconn : conn = w.sessions.length := by omega
    rw [hconn, (Session.session_register url target w).2] at hsome
    exact hsome rfl

/-- On a session just opened nothing has been written. -/
theorem written_of_connect {url : String} {handshake : Handshake}
    (h : Session.connect url w = (.done (conn, handshake), w')) :
    w'.written conn = w.written conn := by
  obtain ⟨address, text, w₁, -, rfl, hreceive, -, rfl⟩ :=
    Session.connect_eq_done h
  have hread := Session.read_of_receive hreceive
  have hclosed := Session.closed_register url address.target w
  have hends := Session.read_ends hclosed (.arrival w.sessions.length)
  rw [hread] at hends
  have hregister : (Session.register url address.target w).written
      w.sessions.length = w.written w.sessions.length :=
    World.written_perform fun frame hact => by cases hact
  have hin : Accounted w.sessions.length
      (Session.register url address.target w) := by
    intro a ha
    rw [(Session.session_register url address.target w).2] at ha
    exact (World.sent_perform _).symm ▸ List.mem_append_right _ ha
  rcases written_of_read hclosed hin hends with hsame | ⟨htold, -⟩
  · exact hsame.trans hregister
  · exact absurd rfl htold

/-- One that succeeded leaves one new session that was greeted and on which
nothing was said yet. -/
theorem keeps_of_connect {url : String} {handshake : Handshake}
    (h : Session.connect url w = (.done (conn, handshake), w')) :
    Keeps 1 w w' := by
  obtain ⟨address, text, w₁, -, hconn, hreceive, -, hw'⟩ :=
    Session.connect_eq_done h
  have hread : Keeps 1 w w₁ := (keeps_register url address.target w).trans
    ((keeping_receive conn).done hreceive)
  have hmodify : ∀ other, conn ≠ other → Talks other w₁ w' :=
    fun other hne => hw' ▸ talks_of_idle (course_of_modify hne _ w₁)
  have hlen : w'.sessions.length = w₁.sessions.length := by
    rw [hw', World.modify_length]
  refine ⟨hlen ▸ hread.grows, hlen ▸ hread.opens, fun other hlt => ?_,
    fun other hle hsome => ?_, fun other hle => ?_⟩
  · exact (hread.goesOn other hlt).trans (hmodify other (by omega))
  · by_cases hne : conn = other
    · subst hne
      exact ⟨w', ⟨url, handshake, w, h, written_of_connect h⟩,
        talks_of_idle (.done w')⟩
    · rw [(hmodify other hne).handshake] at hsome
      obtain ⟨w₀, hbegins, htalks⟩ := hread.begins other hle hsome
      exact ⟨w₀, hbegins, htalks.trans (hmodify other hne)⟩
  · have hunborn := hread.unborn other (hlen ▸ hle)
    rw [hw']
    exact hunborn

/-- Connecting keeps what there is and opens one session. -/
theorem keeping_connect (url : String) : Keeping 1 (Session.connect url) := by
  intro w o w' h hne
  cases o with
  | done x => exact keeps_of_connect h
  | failed e => exact keeps_of_connectFailed h
  | stalled => exact absurd rfl hne

end PairingHarness.Network
