/-
The verdict on an exchange of two messages.

A short message and a payload go from the initiator to the peer, one
after the other, and each must come back in a relay frame as it was sent
(`Exchanged`). What the frames say about their sender is looked at last,
and in both: one that is marked as remote is enough
(`fullExchange_eq_done_iff`). So the verdict is the one on the first
frame alone exactly when the second is not the only one that is marked
(`fullExchange_verdict`), and a service that marks its senders late
passes (`markingLate_passes`).

The documented check is on the first frame, the one that introduces the
peers, and the code looks at the second as well. Both conditions are in
the statement: a service that marks the first frame passes in either
reading, one that marks neither fails in either, and the two readings
part on a service that marks the second alone.
-/
import PairingHarness.Proofs.Scenario.Relaying
import PairingHarness.Proofs.Text.Base64

namespace PairingHarness.Scenario

open Network Json

variable {initiator peer : Nat} {c : Conditions} {w w₁ : World}
  {intro frame : RelayFrame}

-- ======================================================= the statement

/-- The payload of an exchange. -/
def payload (c : Conditions) : String :=
  Payload.printable (c.chance.bytes fullExchangeBytes)

/-- The short message and the payload are handed on in these frames. -/
def Exchanged (c : Conditions) (initiator peer : Nat) (w : World)
    (intro frame : RelayFrame) : Prop :=
  ∃ w₁ w₂, HandsOn initiator peer "intro message" intro w w₁
    ∧ HandsOn initiator peer (payload c) frame w₁ w₂

/-- A frame whose sender has a member `remote`. -/
def Marked (frame : RelayFrame) : Prop :=
  ∃ v, ("remote", v) ∈ frame.sender

/-- The two frames of an exchange are determined by the world. -/
theorem Exchanged.unique {intro' frame' : RelayFrame}
    (h : Exchanged c initiator peer w intro frame)
    (h' : Exchanged c initiator peer w intro' frame') :
    intro' = intro ∧ frame' = frame := by
  obtain ⟨w₁, w₂, hintro, hframe⟩ := h
  obtain ⟨w₁', w₂', hintro', hframe'⟩ := h'
  obtain ⟨hi, hw⟩ := hintro.unique hintro'
  rw [hw] at hframe'
  exact ⟨hi, (hframe.unique hframe').1⟩

-- ========================================================= the scenario

/-- Once a channel is paired, the scenario passes exactly when both
messages are handed on as they were sent and one of the frames is
marked. -/
theorem fullExchange_eq_done_iff
    (hpair : pair c.settings w = (.done (initiator, peer), w₁)) :
    (fullExchange c w).1 = .done ()
      ↔ ∃ intro frame, Exchanged c initiator peer w₁ intro frame
        ∧ (Marked intro ∨ Marked frame) := by
  constructor
  · intro h
    obtain ⟨w', hrun⟩ := Run.eq_of_fst h
    unfold fullExchange at hrun
    rw [Run.bind_done hpair] at hrun
    obtain ⟨intro, w₂, hintro, hrun⟩ := handsOn_of_bind hrun
    obtain ⟨frame, w₃, hframe, hrun⟩ := handsOn_of_bind hrun
    obtain ⟨_, w₄, hensure, -⟩ := Run.bind_eq_done hrun
    obtain ⟨hremote, -⟩ := ensure_eq_done hensure
    rw [Bool.or_eq_true, RelayFrame.hasRemoteSender_iff,
      RelayFrame.hasRemoteSender_iff] at hremote
    exact ⟨intro, frame, ⟨w₂, w₃, hintro, hframe⟩, hremote⟩
  · intro h
    obtain ⟨intro, frame, ⟨w₂, w₃, hintro, hframe⟩, hmarked⟩ := h
    have hremote : (intro.hasRemoteSender || frame.hasRemoteSender) = true := by
      rw [Bool.or_eq_true, RelayFrame.hasRemoteSender_iff,
        RelayFrame.hasRemoteSender_iff]
      exact hmarked
    obtain ⟨w₄, hhangUp⟩ := hangUp_done [initiator, peer] w₃
    have hrun : fullExchange c w = (.done (), w₄) := by
      unfold fullExchange
      rw [Run.bind_done hpair]
      refine (bind_of_handsOn hintro _ _ _).trans ?_
      refine (bind_of_handsOn hframe _ _ _).trans ?_
      rw [hremote, Run.bind_done (ensure_true _ _)]
      exact hhangUp
    rw [hrun]

-- ============================================================== services

/-- A payload has no character that a string must escape. -/
theorem printable_plain (bytes : List UInt8) :
    (Payload.printable bytes).toList.all isPlain = true := by
  have halphabet : Text.Base64.alphabet.all isPlain = true := by decide
  unfold Payload.printable
  rw [String.toList_ofList, List.all_eq_true]
  intro c hc
  rcases Text.Base64.mem_encode hc with hc | rfl
  · exact List.all_eq_true.1 halphabet c hc
  · rfl

/-- A service that relays with one sender at first and with another from
then on. -/
def relayingAs (first later : String) : Service where
  answer _ _ := some .accepted
  refuse _ _ _ := none
  sends
    | .opened _ :: [] => [⟨0, .event (.text "\x7b\"link\":\"/v1/ws/a\"\x7d")⟩]
    | .opened _ :: _ => [⟨1, .event (.text "\x7b\"link\":\"/v1/ws/a\"\x7d")⟩]
    | .wrote 0 (.text m) :: .opened _ :: _ =>
      [⟨1, .event (.text (relayText m first))⟩]
    | .wrote 0 (.text m) :: _ => [⟨1, .event (.text (relayText m later))⟩]
    | _ => []

/-- Conditions in which every byte drawn is zero. -/
def zeroBytes : Conditions where
  settings := .defaults
  timing := .defaults
  chance := ⟨fun _ => 0, ""⟩

/-- There are services that relay both messages, with whatever senders. -/
theorem relayingAs_exchanged {first later : String}
    {members members' : List (String × Value)}
    (hfirst : Writes RelayFrame.senderDepth first.toList (.object members))
    (hlater : Writes RelayFrame.senderDepth later.toList
      (.object members')) :
    ∃ w₁, pair zeroBytes.settings (World.start (relayingAs first later))
        = (.done (0, 1), w₁)
      ∧ Exchanged zeroBytes 0 1 w₁ ⟨"intro message", members⟩
        ⟨payload zeroBytes, members'⟩ := by
  have hplain : (payload zeroBytes).toList.all isPlain = true :=
    printable_plain _
  unfold Exchanged
  -- the payload is opaque from here on: it is never computed
  generalize payload zeroBytes = message at hplain
  refine ⟨_, rfl, _, _, handsOn_of_relayText rfl rfl rfl (by decide) hfirst,
    handsOn_of_relayText rfl rfl rfl hplain hlater⟩

theorem writes_remote : Writes RelayFrame.senderDepth
    "\x7b\"remote\":null\x7d".toList (.object [("remote", .null)]) := by
  let remote : Member := .plain "remote" (by decide) "null".toList
  have ht : Separated '\x7d' true
      ([(remote, Value.null)].map fun m => m.1.chars)
      (remote.chars ++ ['\x7d']) :=
    .item (.first .none) (.close false .none)
  exact .object ht (List.forall_mem_singleton.2 (.null _))

theorem writes_nothing : Writes RelayFrame.senderDepth
    "\x7b\x7d".toList (.object []) := by
  have ht : Separated '\x7d' true
      (([] : List (Member × Value)).map fun m => m.1.chars) ['\x7d'] :=
    .close true .none
  exact .object ht (fun _ h => nomatch h)

-- ========================================================= the conclusion

/-- The scenario passes exactly when both messages are handed on and
either frame is marked. That is the verdict on the first frame alone
exactly when the second is not the only one that is marked. -/
theorem fullExchange_verdict
    (hpair : pair c.settings w = (.done (initiator, peer), w₁)) :
    ((fullExchange c w).1 = .done ()
        ↔ ∃ intro frame, Exchanged c initiator peer w₁ intro frame
          ∧ (Marked intro ∨ Marked frame))
      ∧ (((fullExchange c w).1 = .done ()
          ↔ ∃ intro frame, Exchanged c initiator peer w₁ intro frame
            ∧ Marked intro)
        ↔ ¬∃ intro frame, Exchanged c initiator peer w₁ intro frame
          ∧ ¬Marked intro ∧ Marked frame) := by
  have hpass := fullExchange_eq_done_iff hpair
  refine ⟨hpass, ?_⟩
  -- the frames of a world are determined, so one that is marked late is not
  -- marked early
  constructor
  · intro hfirst hlate
    obtain ⟨intro, frame, hexchanged, hunmarked, hmarked⟩ := hlate
    have hdone := hpass.2 ⟨intro, frame, hexchanged, Or.inr hmarked⟩
    obtain ⟨intro', frame', hexchanged', hmarked'⟩ := hfirst.1 hdone
    rw [(hexchanged.unique hexchanged').1] at hmarked'
    exact hunmarked hmarked'
  · intro hlate
    constructor
    · intro hdone
      obtain ⟨intro, frame, hexchanged, hmarked⟩ := hpass.1 hdone
      by_cases hintro : Marked intro
      · exact ⟨intro, frame, hexchanged, hintro⟩
      · have hframe := hmarked.resolve_left hintro
        exact absurd ⟨intro, frame, hexchanged, hintro, hframe⟩ hlate
    · intro hfirst
      obtain ⟨intro, frame, hexchanged, hmarked⟩ := hfirst
      exact hpass.2 ⟨intro, frame, hexchanged, Or.inl hmarked⟩

/-- The sender is marked in every frame. -/
def marking : World :=
  World.start (relayingAs "\x7b\"remote\":null\x7d" "\x7b\"remote\":null\x7d")

/-- A service that marks the sender of every message passes. -/
theorem marking_passes : (fullExchange zeroBytes marking).1 = .done () := by
  obtain ⟨w₁, hpair, hexchanged⟩ :=
    relayingAs_exchanged writes_remote writes_remote
  obtain ⟨hpass, -⟩ := fullExchange_verdict hpair
  exact hpass.2 ⟨_, _, hexchanged, Or.inl ⟨.null, List.mem_singleton.2 rfl⟩⟩

/-- The sender is marked from the second frame on. -/
def markingLate : World :=
  World.start (relayingAs "\x7b\x7d" "\x7b\"remote\":null\x7d")

/-- So does one that leaves out the mark in the first frame. -/
theorem markingLate_passes :
    ∃ w₁, pair zeroBytes.settings markingLate = (.done (0, 1), w₁)
      ∧ ¬((fullExchange zeroBytes markingLate).1 = .done ()
        ↔ ∃ intro frame, Exchanged zeroBytes 0 1 w₁ intro frame
          ∧ Marked intro) := by
  obtain ⟨w₁, hpair, hexchanged⟩ :=
    relayingAs_exchanged writes_nothing writes_remote
  refine ⟨w₁, hpair, fun hfirst => ?_⟩
  have hdone : (fullExchange zeroBytes markingLate).1 = .done () :=
    (fullExchange_eq_done_iff hpair).2
      ⟨_, _, hexchanged, Or.inr ⟨.null, List.mem_singleton.2 rfl⟩⟩
  obtain ⟨intro, frame, hexchanged', v, hmarked⟩ := hfirst.1 hdone
  rw [(hexchanged.unique hexchanged').1] at hmarked
  cases hmarked

end PairingHarness.Scenario
