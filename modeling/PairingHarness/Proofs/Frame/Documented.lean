/-
Which texts the two frames are read from only where they are written as
documented.

The interface knows both frames as objects. A text conforms when nothing
else is taken for a frame: what is taken is an object with the members of
the frame, and a text that is no such object is refused as the frame that
was wanted. The readers also take an array of the values, so the texts
that conform are the others (`conforms_iff`).
-/
import PairingHarness.Proofs.Frame.Handshake
import PairingHarness.Proofs.Frame.Relay

namespace PairingHarness

open Json

variable {text : String}

/-- The text is taken for a frame only where it is the object that the
interface tells of, and for what that object says. -/
structure Conforms (text : String) : Prop where
  relay : ∀ f, RelayFrame.parse text = .ok f →
    RelayFrame.Written text.toList f
  notRelay : (∀ f, ¬RelayFrame.Written text.toList f) →
    ∃ message, RelayFrame.parse text = .error (.frame message)
  handshake : ∀ h, Handshake.parse text = .ok h →
    ∃ id, Handshake.Written text.toList h.link id
      ∧ h.channelId = Handshake.resolveId h.link id
  notHandshake : (∀ link id, ¬Handshake.Written text.toList link id) →
    ∃ message, Handshake.parse text = .error (.handshake message)

namespace RelayFrame

/-- No text is an object and an array of a frame. -/
theorem Written.not_listed {text : List Char} {f f' : RelayFrame}
    (h : Written text f) : ¬Listed text f' := by
  obtain ⟨ms, hobject, -⟩ := h
  rintro ⟨e, e', harray, -⟩
  exact hobject.not_isArray harray

/-- Nothing but an array is taken that should not be. -/
theorem written_only_iff :
    (∀ f, parse text = .ok f → Written text.toList f)
      ↔ ∀ f, ¬Listed text.toList f := by
  constructor
  · intro h f hlisted
    exact (h f (parse_eq_ok_iff.2 (.inr hlisted))).not_listed hlisted
  · intro h f hparse
    rcases parse_eq_ok_iff.1 hparse with hwritten | hlisted
    · exact hwritten
    · exact absurd hlisted (h f)

end RelayFrame

namespace Handshake

/-- No text is an object and an array of a handshake. -/
theorem Written.not_listed {text : List Char} {link link' : String}
    {id id' : Option String} (h : Written text link id) :
    ¬Listed text link' id' := by
  obtain ⟨ms, hobject, -⟩ := h
  rintro (⟨e, harray, -⟩ | ⟨e, e', harray, -⟩)
  · exact hobject.not_isArray harray
  · exact hobject.not_isArray harray

/-- Nothing but an array that names a channel is taken that should not
be. -/
theorem written_only_iff :
    (∀ h, parse text = .ok h → ∃ id, Written text.toList h.link id
        ∧ h.channelId = resolveId h.link id)
      ↔ ∀ link id, Listed text.toList link id → resolveId link id = "" := by
  constructor
  · intro h link id hlisted
    by_cases hid : resolveId link id = ""
    · exact hid
    · have hparse : parse text = .ok ⟨link, resolveId link id⟩ :=
        parse_eq_ok_iff.2 ⟨id, .inr hlisted, rfl, hid⟩
      obtain ⟨_, hwritten, -⟩ := h _ hparse
      exact absurd hlisted hwritten.not_listed
  · intro h handshake hparse
    obtain ⟨id, hwritten | hlisted, hid, hne⟩ := parse_eq_ok_iff.1 hparse
    · exact ⟨id, hwritten, hid⟩
    · exact absurd (hid.trans (h _ _ hlisted)) hne

end Handshake

/-- A text conforms unless it is an array of the values of a relay frame,
or one of the values of a handshake that names a channel. -/
theorem conforms_iff (text : String) :
    Conforms text ↔ (∀ f, ¬RelayFrame.Listed text.toList f)
      ∧ ∀ link id, Handshake.Listed text.toList link id →
        Handshake.resolveId link id = "" := by
  rw [← RelayFrame.written_only_iff, ← Handshake.written_only_iff]
  constructor
  · exact fun h => ⟨h.relay, h.handshake⟩
  · rintro ⟨hrelay, hhandshake⟩
    refine ⟨hrelay, fun h => ?_, hhandshake, fun h => ?_⟩
    · exact RelayFrame.parse_eq_frame fun f hf => h f (hrelay f hf)
    · refine Handshake.parse_eq_handshake fun f hf => ?_
      obtain ⟨id, hwritten, -⟩ := hhandshake f hf
      exact h _ id hwritten

/-- An array of a message and a sender is taken for a relay frame. -/
theorem not_conforms_array : ¬Conforms "[\"hi\",\x7b\x7d]" := by
  intro h
  have hmessage : TextSource (quote "hi".toList) "hi" :=
    .text 0 (.plain_of_all (by decide))
  have hnone : Separated '\x7d' true
      (([] : List (Member × Value)).map fun m => m.1.chars) ['\x7d'] :=
    .close true .none
  have hsender : ObjectSource RelayFrame.senderDepth ['\x7b', '\x7d'] [] :=
    .object hnone (fun _ hm => nomatch hm)
  have hlisted : RelayFrame.Listed "[\"hi\",\x7b\x7d]".toList ⟨"hi", []⟩ :=
    ⟨_, _, ⟨⟨.none, .none, _, by decide, .item (.first .none)
        (.item (.next .none .none) (.close false .none))⟩,
      List.forall_mem_cons.2 ⟨hmessage.form,
        List.forall_mem_singleton.2 hsender.form⟩⟩, hmessage, hsender⟩
  have hparse := RelayFrame.parse_eq_ok_iff.2 (.inr hlisted)
  exact (h.relay _ hparse).not_listed hlisted

end PairingHarness
