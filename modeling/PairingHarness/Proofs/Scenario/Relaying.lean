/-
A message handed on by the service.

Every scenario that looks at what is relayed does the same with each
message: it is sent, the peer reads, what was read must decode to a
relay frame, and the frame must carry the message. When all of it
succeeds, the message is handed on (`HandsOn`), and a scenario gets past
those steps exactly then (`bind_of_handsOn`, `handsOn_of_bind`). A frame
that a service writes out in the plain form hands on any message that
needs no escapes (`handsOn_of_relayText`).

What the frame says besides the message is kept in the statement, as the
exchange of two messages looks at the senders afterwards and the
numbered series does not. The plain form is that of the witnesses; the
statements for every service take any text that decodes.
-/
import PairingHarness.Proofs.Frame.Relay
import PairingHarness.Proofs.Json.Encodable
import PairingHarness.Proofs.Network.Reaching
import PairingHarness.Proofs.Scenario.Checks

namespace PairingHarness.Scenario

open Network Json

variable {initiator peer : Nat} {w w₁ w' : World} {frame : RelayFrame}

-- ============================================================ handing on

/-- A message is sent and read by the peer in this frame, as it was
sent. -/
def HandsOn (initiator peer : Nat) (message : String) (frame : RelayFrame)
    (w w' : World) : Prop :=
  ∃ w₁ text,
    Session.send initiator message w = (.done (), w₁)
      ∧ Session.receive peer w₁ = (.done (.message text), w')
      ∧ RelayFrame.parse text = .ok frame
      ∧ frame.message = message

/-- A message comes back in one frame only. -/
theorem HandsOn.unique {message : String} {frame' : RelayFrame}
    {w'' : World} (h : HandsOn initiator peer message frame w w')
    (h' : HandsOn initiator peer message frame' w w'') :
    frame' = frame ∧ w'' = w' := by
  obtain ⟨w₁, text, hs, hr, hf, -⟩ := h
  obtain ⟨w₁', text', hs', hr', hf', -⟩ := h'
  rw [hs] at hs'
  cases hs'
  rw [hr] at hr'
  cases hr'
  rw [hf] at hf'
  cases hf'
  exact ⟨rfl, rfl⟩

/-- A message that is handed on passes its checks, and the scenario goes
on with the frame. -/
theorem bind_of_handsOn {α : Type} {message : String}
    (h : HandsOn initiator peer message frame w w') (what context : String)
    (next : RelayFrame → Run α) :
    (do
      Session.send initiator message
      let frame ← expectRelay peer what
      expectMessage frame message context
      next frame) w = next frame w' := by
  obtain ⟨w₁, text, hs, hr, hf, hm⟩ := h
  rw [Run.bind_done hs, Run.bind_done (expectRelay_of_message hr hf what),
    Run.bind_done (expectMessage_of_eq hm context w')]

/-- Where the scenario has gone on to its end, the message was handed
on. -/
theorem handsOn_of_bind {α : Type} {message what context : String}
    {next : RelayFrame → Run α} {a : α}
    (h : (do
      Session.send initiator message
      let frame ← expectRelay peer what
      expectMessage frame message context
      next frame) w = (.done a, w')) :
    ∃ frame w₁, HandsOn initiator peer message frame w w₁
      ∧ next frame w₁ = (.done a, w') := by
  obtain ⟨_, w₁, hs, h⟩ := Run.bind_eq_done h
  obtain ⟨frame, w₂, hrelay, h⟩ := Run.bind_eq_done h
  obtain ⟨_, w₃, hmessage, h⟩ := Run.bind_eq_done h
  obtain ⟨text, hr, hf⟩ := expectRelay_eq_done hrelay
  obtain ⟨hm, hw⟩ := expectMessage_eq_done hmessage
  rw [hw] at h
  exact ⟨frame, w₂, ⟨w₁, text, hs, hr, hf, hm⟩, h⟩

-- ======================================================= frames as written

/-- A relay frame as a service may write it. -/
def relayText (message sender : String) : String :=
  "\x7b\"message\":\"" ++ message ++ "\",\"sender\":" ++ sender ++ "\x7d"

/-- A frame in the plain form is read back as what it was made of. -/
theorem parse_relayText {message sender : String}
    {members : List (String × Value)}
    (hm : message.toList.all isPlain = true)
    (hs : Writes RelayFrame.senderDepth sender.toList (.object members)) :
    RelayFrame.parse (relayText message sender) = .ok ⟨message, members⟩ := by
  let ms : List Member :=
    [.plain "message" (by decide) (quote message.toList),
      .plain "sender" (by decide) sender.toList]
  have hmessage : Writes 0 (quote message.toList) (.text message) :=
    .text 0 (.plain_of_all hm)
  have hobject : IsObject ms (relayText message sender).toList := by
    refine ⟨⟨.none, .none, _, ?_, .item (.first .none)
      (.item (.next .none .none) (.close false .none))⟩, ?_⟩
    · simp [relayText, Gap.none, Member.plain, MemberText.chars, quote]
    · exact List.forall_mem_cons.2
        ⟨hmessage.form, List.forall_mem_singleton.2 hs.form⟩
  exact RelayFrame.parse_eq_ok_iff.2
    (.inl ⟨ms, hobject, ⟨_, rfl, hmessage⟩, ⟨_, rfl, hs⟩⟩)

theorem handsOn_of_relayText {message sender : String}
    {members : List (String × Value)} {rest : List Arrival}
    (hs : Session.send initiator message w = (.done (), w₁))
    (hclosed : (w₁.session peer).closed = none)
    (hinbox : (w₁.session peer).inbox
      = .event (.text (relayText message sender)) :: rest)
    (hm : message.toList.all isPlain = true)
    (hsender : Writes RelayFrame.senderDepth sender.toList
      (.object members)) :
    HandsOn initiator peer message ⟨message, members⟩ w
      (Session.withInbox peer rest w₁) := by
  have hne : relayText message sender ≠ "" := by
    intro h
    have hlist := congrArg String.toList h
    simp [relayText] at hlist
  exact ⟨w₁, _, hs, Session.receive_text hclosed hinbox hne,
    parse_relayText hm hsender, rfl⟩

end PairingHarness.Scenario
