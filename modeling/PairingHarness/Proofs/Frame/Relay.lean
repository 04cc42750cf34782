/-
Which texts are relay frames, and what they say.

A text is taken as a frame in two cases and no other
(`parse_eq_ok_iff`): it is an object that has a message and a sender
(`Written`), or it is an array of the two (`Listed`). So a frame that is
written as an object is read back as what was written, whatever stands
between, before and behind its two members.

The statement for what the program itself writes (`parse_written`) is
not about one writer: every text that is an object with these members by
the grammar, with any escapes in its texts, in either order and with any
further members, is read as the same frame. That there is such a text
for every frame at all is `exists_written`.
-/
import PairingHarness.Frame.Relay
import PairingHarness.Proofs.Frame.Record
import PairingHarness.Proofs.Json.Encodable

namespace PairingHarness.RelayFrame

open Json

variable {text : List Char} {s r : List Char} {f : RelayFrame}

-- ============================================================== the forms

/-- A text that is an object with the message and the sender of the
frame. -/
def Written (text : List Char) (f : RelayFrame) : Prop :=
  ∃ ms, IsObject ms text
    ∧ Field ["message"] TextSource ms (some f.message)
    ∧ Field ["sender"] (ObjectSource senderDepth) ms (some f.sender)

/-- A text that is an array of the message and the sender of the
frame. -/
def Listed (text : List Char) (f : RelayFrame) : Prop :=
  ∃ e e', IsArray [e, e'] text ∧ TextSource e f.message
    ∧ ObjectSource senderDepth e' f.sender

-- ================================================================ reading

/-- The slots of a relay frame are a message that is a text and a sender
that is an object. -/
theorem twoFields_slot :
    TwoFields slot Fields.mk ["message"] readTextField ["sender"]
      (readObjectField senderDepth) where
  disjoint := by decide
  missing name h b := by
    cases List.mem_singleton.1 h
    rfl
  again name h a b := by
    cases List.mem_singleton.1 h
    exact ⟨"message", rfl⟩
  missing' name h a := by
    cases List.mem_singleton.1 h
    rfl
  again' name h a b := by
    cases List.mem_singleton.1 h
    exact ⟨"sender", rfl⟩
  other name h h' acc := by
    unfold slot
    rw [if_neg fun he => h (List.mem_singleton.2 he),
      if_neg fun he => h' (List.mem_singleton.2 he)]

/-- What the reader of the object form takes is its members: one message,
one sender. -/
theorem ofObject_eq_ok_iff {g' : Gap} :
    ofObject s = .ok (f, g'.chars)
      ↔ ∃ (ms : List Member) (t : List Char), s = t ++ g'.chars
        ∧ Separated '\x7d' true (ms.map fun m => m.chars) t
        ∧ (∀ m ∈ ms, ValueForm m.value)
        ∧ Field ["message"] TextSource ms (some f.message)
        ∧ Field ["sender"] (ObjectSource senderDepth) ms (some f.sender) := by
  have hread := twoFields_slot.readObject_iff (s := s)
    ⟨readTextField_sound, readTextField_complete⟩
    ⟨readObjectField_sound _, readObjectField_complete _⟩
    TextSource.form ObjectSource.form
  constructor
  · intro h
    obtain ⟨⟨acc, rest⟩, hfields, h₁⟩ := bind_eq_ok h
    cases acc with
    | mk message sender =>
        cases message with
        | none => cases h₁
        | some message =>
            cases sender with
            | none => cases h₁
            | some sender =>
                cases h₁
                obtain ⟨ms, t, a, b, hacc, hs, ht, hms, ha, hb⟩ :=
                  (hread _ g').1 hfields
                cases hacc
                exact ⟨ms, t, hs, ht, hms, ha, hb⟩
  · rintro ⟨ms, t, hs, ht, hms, ha, hb⟩
    have hfields := (hread _ g').2 ⟨ms, t, _, _, rfl, hs, ht, hms, ha, hb⟩
    unfold ofObject
    rw [bind_of_ok hfields]
    rfl

/-- What the reader of the array form takes is two values. -/
theorem ofArray_eq_ok_iff :
    ofArray s = .ok (f, r)
      ↔ ∃ (e e' t : List Char), s = t ++ r ∧ Separated ']' true [e, e'] t
        ∧ TextSource e f.message ∧ ObjectSource senderDepth e' f.sender := by
  constructor
  · intro h
    obtain ⟨⟨more, s₁⟩, hnext, h₁⟩ := bind_eq_ok h
    cases more with
    | false => cases h₁
    | true =>
    obtain ⟨⟨message, s₂⟩, hmessage, h₂⟩ := bind_eq_ok h₁
    obtain ⟨⟨more, s₃⟩, hnext', h₃⟩ := bind_eq_ok h₂
    cases more with
    | false => cases h₃
    | true =>
    obtain ⟨⟨sender, s₄⟩, hsender, h₄⟩ := bind_eq_ok h₃
    obtain ⟨rest, hend, h₅⟩ := bind_eq_ok h₄
    cases h₅
    exact pair_of_read readTextField_sound (readObjectField_sound _) hnext
      hmessage hnext' hsender hend
  · rintro ⟨e, e', t, rfl, ht, he, he'⟩
    obtain ⟨s₁, s₂, s₃, s₄, hnext, hmessage, hnext', hsender, hend⟩ :=
      read_of_pair (readTextField_complete he)
        (readObjectField_complete _ he') he.form.starts he'.form.starts ht r
    unfold ofArray
    rw [bind_of_ok hnext]
    show (readTextField s₁ >>= _) = _
    rw [bind_of_ok hmessage]
    show (nextItem false s₂ >>= _) = _
    rw [bind_of_ok hnext']
    show (readObjectField senderDepth s₃ >>= _) = _
    rw [bind_of_ok hsender]
    show (readListEnd s₄ >>= _) = _
    rw [bind_of_ok hend]
    rfl

/-- The texts that are taken as a frame. -/
theorem parse_eq_ok_iff {text : String} :
    parse text = .ok f ↔ Written text.toList f ∨ Listed text.toList f := by
  have hread : parse text = .ok f
      ↔ readRecord described ofObject ofArray text.toList = .ok f := by
    unfold parse
    cases readRecord described ofObject ofArray text.toList with
    | error e => exact ⟨(fun h => nomatch h), (fun h => nomatch h)⟩
    | ok f' => exact ⟨fun h => by cases h; rfl, fun h => by cases h; rfl⟩
  rw [hread, readRecord_eq_ok_iff]
  constructor
  · rintro ⟨g, g', t, ⟨htext, h⟩ | ⟨htext, h⟩⟩
    · obtain ⟨ms, t', rfl, ht, hms, hmessage, hsender⟩ := ofObject_eq_ok_iff.1 h
      exact .inl ⟨ms, ⟨⟨g, g', t', htext, ht⟩, hms⟩, hmessage, hsender⟩
    · obtain ⟨e, e', t', rfl, ht, he, he'⟩ := ofArray_eq_ok_iff.1 h
      exact .inr ⟨e, e', ⟨⟨g, g', t', htext, ht⟩,
        List.forall_mem_cons.2 ⟨he.form, List.forall_mem_singleton.2 he'.form⟩⟩,
        he, he'⟩
  · rintro (⟨ms, ⟨⟨g, g', t, htext, ht⟩, hms⟩, hmessage, hsender⟩
      | ⟨e, e', ⟨⟨g, g', t, htext, ht⟩, -⟩, he, he'⟩)
    · exact ⟨g, g', _, .inl ⟨htext,
        ofObject_eq_ok_iff.2 ⟨ms, t, rfl, ht, hms, hmessage, hsender⟩⟩⟩
    · exact ⟨g, g', _, .inr ⟨htext,
        ofArray_eq_ok_iff.2 ⟨e, e', t, rfl, ht, he, he'⟩⟩⟩

/-- A text that is not taken is refused as a frame. -/
theorem parse_eq_frame {text : String} (h : ∀ f, parse text ≠ .ok f) :
    ∃ message, parse text = .error (.frame message) := by
  unfold parse at h ⊢
  cases hread : readRecord described ofObject ofArray text.toList with
  | error e => exact ⟨_, rfl⟩
  | ok f =>
      rw [hread] at h
      exact absurd rfl (h f)

/-- A sender names a remote end where it has that member, whatever the value
(`has_remote_sender`). -/
theorem hasRemoteSender_iff :
    f.hasRemoteSender = true ↔ ∃ v, ("remote", v) ∈ f.sender := by
  unfold hasRemoteSender
  rw [List.any_eq_true]
  constructor
  · rintro ⟨⟨name, v⟩, hm, hname⟩
    obtain rfl : name = "remote" := eq_of_beq hname
    exact ⟨v, hm⟩
  · rintro ⟨v, hm⟩
    exact ⟨_, hm, beq_self_eq_true _⟩

-- ============================================================= round trip

/-- Every frame within the bounds of an encoder is written by some
text. -/
theorem exists_written (message : String) {sender : List (String × Value)}
    (h : (Value.object sender).Within senderDepth) :
    ∃ text, Written text ⟨message, sender⟩ := by
  obtain ⟨source, hsource⟩ := exists_spells message.toList
  obtain ⟨e, he⟩ := exists_writes h
  have hsource := Writes.text 0 hsource
  let ms : List Member :=
    [.plain "message" (by decide) (quote source),
      .plain "sender" (by decide) e]
  obtain ⟨t, ht⟩ := exists_separated '\x7d' true (ms.map fun m => m.chars)
  exact ⟨_, ms, ⟨⟨.none, .none, t, rfl, ht⟩,
    List.forall_mem_cons.2 ⟨hsource.form,
      List.forall_mem_singleton.2 he.form⟩⟩,
    ⟨_, rfl, hsource⟩, _, rfl, he⟩

/-- A frame that is written as an object is read back: its message
character by character, its sender with all that is in it. The members
come in any order and with any blanks, others among them. -/
theorem parse_written {text : String} {ms : List Member} {message : String}
    {sender : List (String × Value)} (hobject : IsObject ms text.toList)
    (hmessage : Field ["message"] TextSource ms (some message))
    (hsender : Field ["sender"] (ObjectSource senderDepth) ms
      (some sender)) :
    ∃ f, parse text = .ok f ∧ f.message = message ∧ f.sender = sender
      ∧ (f.hasRemoteSender = true ↔ ∃ v, ("remote", v) ∈ sender) :=
  ⟨⟨message, sender⟩,
    parse_eq_ok_iff.2 (.inl ⟨ms, hobject, hmessage, hsender⟩), rfl, rfl,
    hasRemoteSender_iff⟩

/-- A sender before the message, and a member between them. -/
theorem parse_written_remote :
    ∃ f, parse ("\x7b\"sender\":\x7b\"remote\":null\x7d, "
          ++ "\"x\":[], \"message\":\"a\"\x7d") = .ok f
      ∧ f.message = "a" ∧ f.sender = [("remote", .null)]
      ∧ (f.hasRemoteSender = true
        ↔ ∃ v, ("remote", v) ∈ [("remote", Value.null)]) := by
  let blank : Gap := ⟨[' '], List.forall_mem_singleton.2 rfl⟩
  let remote : Member := .plain "remote" (by decide) "null".toList
  let ms : List Member :=
    [.plain "sender" (by decide) ('\x7b' :: (remote.chars ++ ['\x7d'])),
      .plain "x" (by decide) ['[', ']'],
      .plain "message" (by decide) (quote ['a'])]
  have hmessage : Writes 0 (quote ['a']) (.text "a") :=
    .text 0 (.plain_of_all (by decide))
  have hremote : Separated '\x7d' true
      ([(remote, Value.null)].map fun m => m.1.chars)
      (remote.chars ++ ['\x7d']) :=
    .item (.first .none) (.close false .none)
  have hsender : Writes senderDepth
      ('\x7b' :: (remote.chars ++ ['\x7d'])) (.object [("remote", .null)]) :=
    .object hremote (List.forall_mem_singleton.2 (.null _))
  have hother : ValueForm ['[', ']'] :=
    .array (.close true .none) (fun _ h => nomatch h)
  have hobject : IsObject ms ("\x7b\"sender\":\x7b\"remote\":null\x7d, "
      ++ "\"x\":[], \"message\":\"a\"\x7d").toList :=
    ⟨⟨.none, .none, _, by decide, .item (.first .none)
        (.item (.next .none blank) (.item (.next .none blank)
          (.close false .none)))⟩,
      List.forall_mem_cons.2 ⟨hsender.form, List.forall_mem_cons.2
        ⟨hother, List.forall_mem_singleton.2 hmessage.form⟩⟩⟩
  exact parse_written hobject ⟨_, rfl, hmessage⟩ ⟨_, rfl, hsender⟩

end PairingHarness.RelayFrame
