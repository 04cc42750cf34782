/-
The verdict on a fabricated channel id.

An initiator opens a channel, and an intruder asks to join one that was
made up. The intruder is kept out (`KeptOut`) when it is not let in, by
a close or by any status, or when the first that it hears within the
grace is the end. Everything else is a leak, with a failure for each
kind (`Leaks`): opening fails in another way, a message is delivered,
nothing comes, or the read fails. Only while the second session is
opened can the scenario wait for ever.

An id that happens to be the one of the channel is no intruder's; then
the scenario fails before it opens a second session.

The address that the intruder asks for is that of the channel but for its
last segment, whatever slashes the link has (`replaces_last_segment`).

Two grounds for keeping the intruder out are accepted although they look
different from outside, a refused upgrade and a session that is closed
at once: the second connect is judged by its failure, and only an
intruder that was let in is listened to. That the listening is bounded
makes this the one scenario whose last wait always ends.
-/
import PairingHarness.Proofs.Frame.Link
import PairingHarness.Proofs.Scenario.Checks

namespace PairingHarness.Scenario

open Network

variable {c : Conditions} {url : String} {initiator : Nat}
  {handshake : Handshake} {w w₁ w' : World}

-- ======================================================= the statement

/-- The address of the channel that was made up. -/
def fabricatedUrl (c : Conditions) (handshake : Handshake) : String :=
  c.settings.baseUrl ++ handshake.linkBase ++ "/" ++ c.chance.channelId

/-- An intruder does not get into the channel. -/
inductive KeptOut (c : Conditions) (url : String) (w : World) : Prop where
  | closed {r : String} {w' : World}
      (h : Session.connect url w = (.failed (.closed r), w'))
  | refused {status : Nat} {w' : World}
      (h : Session.connect url w = (.failed (.refused status), w'))
  | hearsEnd {intruder : Nat} {theirs : Handshake} {r : String}
      {w₁ w' : World}
      (h : Session.connect url w = (.done (intruder, theirs), w₁))
      (hr : Session.receiveWithin intruder c.timing.closeGrace w₁
        = (.done (some (.closed r)), w'))

/-- What else an intruder can meet, and the failure that tells it. -/
inductive Leaks (c : Conditions) (url : String) (w : World) :
    Failure → Prop where
  | openingFails {e : Failure} {w' : World}
      (h : Session.connect url w = (.failed e, w'))
      (hclosed : ∀ r, e ≠ .closed r)
      (hrefused : ∀ status, e ≠ .refused status) : Leaks c url w e
  | delivered {intruder : Nat} {theirs : Handshake} {text : String}
      {w₁ w' : World}
      (h : Session.connect url w = (.done (intruder, theirs), w₁))
      (hr : Session.receiveWithin intruder c.timing.closeGrace w₁
        = (.done (some (.message text)), w')) :
      Leaks c url w (.assertion ("Frame delivered on fabricated channel "
        ++ c.chance.channelId ++ ": " ++ RelayFrame.shown text))
  | silent {intruder : Nat} {theirs : Handshake} {w₁ w' : World}
      (h : Session.connect url w = (.done (intruder, theirs), w₁))
      (hr : Session.receiveWithin intruder c.timing.closeGrace w₁
        = (.done none, w')) :
      Leaks c url w (.assertion ("Connection with fabricated channel "
        ++ c.chance.channelId ++ " stayed open"))
  | readFails {intruder : Nat} {theirs : Handshake} {e : Failure}
      {w₁ w' : World}
      (h : Session.connect url w = (.done (intruder, theirs), w₁))
      (hr : Session.receiveWithin intruder c.timing.closeGrace w₁
        = (.failed e, w')) : Leaks c url w e

/-- What the scenario comes to with an intruder. -/
inductive Meets (c : Conditions) (url : String) (w : World) :
    Outcome Unit → Prop where
  | keptOut (h : KeptOut c url w) : Meets c url w (.done ())
  | leaks {e : Failure} (h : Leaks c url w e) : Meets c url w (.failed e)
  | waits {w' : World} (h : Session.connect url w = (.stalled, w')) :
      Meets c url w .stalled

-- ======================================================== the intruder

/-- Whatever the service does with the intruder, it is one of the cases. -/
theorem exists_meets (c : Conditions) (url : String) (w : World) :
    ∃ o, Meets c url w o := by
  cases h : Session.connect url w with
  | mk o w₁ =>
      cases o with
      | stalled => exact ⟨_, .waits h⟩
      | failed e =>
          cases e with
          | closed r => exact ⟨_, .keptOut (.closed h)⟩
          | refused status => exact ⟨_, .keptOut (.refused h)⟩
          | _ => exact ⟨_, .leaks (.openingFails h (fun _ => nofun)
              (fun _ => nofun))⟩
      | done opened =>
          obtain ⟨intruder, theirs⟩ := opened
          cases hr : Session.receiveWithin intruder c.timing.closeGrace w₁ with
          | mk o w' =>
              cases o with
              | stalled => exact absurd hr (Session.read_not_stalled _)
              | failed e => exact ⟨_, .leaks (.readFails h hr)⟩
              | done heard =>
                  rcases heard with _ | ⟨text | r⟩
                  · exact ⟨_, .leaks (.silent h hr)⟩
                  · exact ⟨_, .leaks (.delivered h hr)⟩
                  · exact ⟨_, .keptOut (.hearsEnd h hr)⟩

/-- What the scenario makes of the intruder's attempt. -/
def judgeIntruder (c : Conditions) : Except Failure (Nat × Handshake) → Run Unit
  | .ok (intruder, _) => expectIntruderClosed c intruder
  | .error (.closed _) => Run.pure ()
  | .error (.refused _) => Run.pure ()
  | .error e => Run.fail e

theorem judgeIntruder_of_keptOut (h : KeptOut c url w) :
    ∃ x w₁ w', (Session.connect url).attempt w = (.done x, w₁)
      ∧ judgeIntruder c x w₁ = (.done (), w') := by
  cases h with
  | closed h => exact ⟨_, _, _, Run.attempt_failed h, rfl⟩
  | refused h => exact ⟨_, _, _, Run.attempt_failed h, rfl⟩
  | @hearsEnd intruder _ _ w₁ w' h hr =>
      have hover := Session.isOver_of_closed (Session.closed_of_read hr)
      refine ⟨_, w₁, w', Run.attempt_done h, ?_⟩
      show expectIntruderClosed c intruder w₁ = _
      unfold expectIntruderClosed
      rw [Run.bind_done hr]
      exact expectClosed_of_over hover _

theorem judgeIntruder_of_leaks {e : Failure} (h : Leaks c url w e) :
    ∃ x w₁ w', (Session.connect url).attempt w = (.done x, w₁)
      ∧ judgeIntruder c x w₁ = (.failed e, w') := by
  cases h with
  | @openingFails _ w' h hclosed hrefused =>
      refine ⟨_, w', w', Run.attempt_failed h, ?_⟩
      cases e with
      | closed r => exact absurd rfl (hclosed r)
      | refused status => exact absurd rfl (hrefused status)
      | _ => rfl
  | delivered h hr => exact ⟨_, _, _, Run.attempt_done h, Run.bind_done hr⟩
  | silent h hr => exact ⟨_, _, _, Run.attempt_done h, Run.bind_done hr⟩
  | readFails h hr => exact ⟨_, _, _, Run.attempt_done h, Run.bind_failed hr⟩

-- ======================================================== the scenario

/-- With the id of the channel itself the scenario ends at once. -/
theorem badChannel_of_eq
    (hinit : initiate c.settings w = (.done (initiator, handshake), w₁))
    (heq : c.chance.channelId = handshake.channelId) :
    badChannel c w
      = (.failed (.assertion "Oops, matching channelids"), w₁) := by
  have hfalse : (c.chance.channelId != handshake.channelId) = false := by
    simp [heq]
  unfold badChannel
  rw [Run.bind_done hinit]
  simp only [hfalse]
  exact Run.bind_failed (ensure_false _ _)

/-- With any other it makes the attempt. -/
theorem badChannel_of_ne
    (hinit : initiate c.settings w = (.done (initiator, handshake), w₁))
    (hne : c.chance.channelId ≠ handshake.channelId) :
    badChannel c w
      = ((Session.connect (fabricatedUrl c handshake)).attempt
          >>= fun x => judgeIntruder c x
          >>= fun _ => hangUp [initiator]) w₁ := by
  have htrue : (c.chance.channelId != handshake.channelId) = true := by
    simp [hne]
  unfold badChannel
  rw [Run.bind_done hinit]
  simp only [htrue]
  rw [Run.bind_done (ensure_true _ _)]
  refine congrArg (fun next => (Run.bind
    (Session.connect (fabricatedUrl c handshake)).attempt next) w₁) ?_
  funext x
  cases x with
  | ok opened => rfl
  | error e => cases e <;> rfl

/-- The scenario ends as its second connection does (`bad_channel`). -/
theorem badChannel_of_meets {o : Outcome Unit}
    (hinit : initiate c.settings w = (.done (initiator, handshake), w₁))
    (hne : c.chance.channelId ≠ handshake.channelId)
    (h : Meets c (fabricatedUrl c handshake) w₁ o) :
    (badChannel c w).1 = o := by
  rw [badChannel_of_ne hinit hne]
  cases h with
  | keptOut h =>
      obtain ⟨x, w₂, w', hattempt, hjudge⟩ := judgeIntruder_of_keptOut h
      obtain ⟨w'', hhangUp⟩ := hangUp_done [initiator] w'
      rw [Run.bind_done hattempt, Run.bind_done hjudge, hhangUp]
  | leaks h =>
      obtain ⟨x, w₂, w', hattempt, hjudge⟩ := judgeIntruder_of_leaks h
      rw [Run.bind_done hattempt, Run.bind_failed hjudge]
  | waits h => rw [Run.bind_stalled (Run.attempt_stalled h)]

/-- With an id that is not the channel's the scenario ends in a verdict
exactly when the intruder meets that end. -/
theorem badChannel_eq_iff {o : Outcome Unit}
    (hinit : initiate c.settings w = (.done (initiator, handshake), w₁))
    (hne : c.chance.channelId ≠ handshake.channelId) :
    (badChannel c w).1 = o ↔ Meets c (fabricatedUrl c handshake) w₁ o := by
  constructor
  · intro h
    obtain ⟨o', ho'⟩ := exists_meets c (fabricatedUrl c handshake) w₁
    rw [badChannel_of_meets hinit hne ho'] at h
    subst h
    exact ho'
  · exact badChannel_of_meets hinit hne

/-- The scenario passes exactly when the intruder is kept out, fails
exactly when there is a leak, with the failure that tells it, and waits
for ever exactly when the intruder's opening does. An id that is the
channel's own is a failure, and nothing happens after the initiator has
connected. -/
theorem badChannel_verdict
    (hinit : initiate c.settings w = (.done (initiator, handshake), w₁)) :
    (c.chance.channelId ≠ handshake.channelId →
        ((badChannel c w).1 = .done ()
            ↔ KeptOut c (fabricatedUrl c handshake) w₁)
          ∧ (∀ e, (badChannel c w).1 = .failed e
            ↔ Leaks c (fabricatedUrl c handshake) w₁ e)
          ∧ ((badChannel c w).1 = .stalled
            ↔ ∃ w', Session.connect (fabricatedUrl c handshake) w₁
              = (.stalled, w')))
      ∧ (c.chance.channelId = handshake.channelId →
        badChannel c w
          = (.failed (.assertion "Oops, matching channelids"), w₁)) := by
  refine ⟨fun hne => ⟨?_, fun e => ?_, ?_⟩, badChannel_of_eq hinit⟩
  · rw [badChannel_eq_iff hinit hne]
    constructor
    · intro h
      cases h with
      | keptOut h => exact h
    · exact .keptOut
  · rw [badChannel_eq_iff hinit hne]
    constructor
    · intro h
      cases h with
      | leaks h => exact h
    · exact .leaks
  · rw [badChannel_eq_iff hinit hne]
    constructor
    · intro h
      cases h with
      | waits h => exact ⟨_, h⟩
    · intro h
      obtain ⟨w', h⟩ := h
      exact .waits h

/-- A service that opens one channel and refuses whoever asks for
another. -/
def refusing : Service where
  answer
    | [], _ => some .accepted
    | _, _ => some (.status 404)
  refuse _ _ _ := none
  sends
    | .opened _ :: [] => [⟨0, .event (.text "\x7b\"link\":\"/v1/ws/a\"\x7d")⟩]
    | _ => []

/-- Conditions in which this id is made up. -/
def fabricating (id : String) : Conditions where
  settings := .defaults
  timing := .defaults
  chance := ⟨fun _ => 0, id⟩

/-- With that service the scenario passes, unless the id that is made up
is the one of the channel. -/
theorem refusing_passes :
    (badChannel (fabricating "b") (World.start refusing)).1 = .done ()
      ∧ (badChannel (fabricating "a") (World.start refusing)).1
        = .failed (.assertion "Oops, matching channelids") := by
  have hinit : initiate Settings.defaults (World.start refusing)
      = (.done (0, ⟨"/v1/ws/a", "a"⟩),
          (initiate Settings.defaults (World.start refusing)).2) := rfl
  constructor
  · obtain ⟨hother, -⟩ := badChannel_verdict (c := fabricating "b") hinit
    obtain ⟨hpass, -⟩ := hother (by decide)
    exact hpass.2 (.refused rfl)
  · obtain ⟨-, hown⟩ := badChannel_verdict (c := fabricating "a") hinit
    rw [hown rfl]

-- ========================================================= the address

/-- The two parts of a link make up its trunk, and a segment put in the
place of the last one is all that the new path differs in: the path that
the intruder joins has the made-up id for its last segment and the base of
the channel's link. -/
theorem replaces_last_segment (link : String) :
    (∃! trunk, Link.IsTrunk link trunk)
      ∧ Link.Splits link (Link.base link) (Link.tail link)
      ∧ ∀ segment : String, segment ≠ "" → '/' ∉ segment.toList →
        Link.tail (Link.base link ++ "/" ++ segment) = segment
          ∧ Link.base (Link.base link ++ "/" ++ segment) = Link.base link
          ∧ ∀ (c : Conditions) (handshake : Handshake),
            handshake.link = link → c.chance.channelId = segment →
            fabricatedUrl c handshake = c.settings.baseUrl
              ++ (Link.base link ++ "/" ++ segment) := by
  refine ⟨Link.exists_unique_trunk link, Link.splits link,
    fun segment hne hslash => ⟨Link.tail_append hne hslash _,
      Link.base_append hne hslash _, ?_⟩⟩
  rintro c handshake rfl rfl
  simp only [fabricatedUrl, Handshake.linkBase, String.append_assoc]

/-- Slashes in front, in the middle and at the end. -/
theorem replaces_last_segment_slashes :
    Link.base "//v1//a//" = "//v1/" ∧ Link.tail "//v1//a//" = "a"
      ∧ Link.tail "//v1//b" = "b" ∧ Link.base "//v1//b" = "//v1/" := by
  have hbase : Link.base "//v1//a//" = "//v1/" := by decide
  obtain ⟨-, hsplits, hall⟩ := replaces_last_segment "//v1//a//"
  obtain ⟨htail, hsame, -⟩ := hall "b" (by decide) (by decide)
  have htrunk : Link.IsTrunk "//v1//a//" "//v1//a" :=
    Link.isTrunk_iff.2 (by decide)
  have hjoined := hsplits.joined _ htrunk (by decide)
  rw [hbase] at htail hsame hjoined
  refine ⟨hbase, ?_, htail, hsame⟩
  have hparts : "//v1/" ++ "/" ++ "a"
      = "//v1/" ++ "/" ++ Link.tail "//v1//a//" := hjoined
  exact (String.append_right_inj _ |>.1 hparts).symm

end PairingHarness.Scenario
