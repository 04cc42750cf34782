/-
Which texts are handshakes, and what channel they name.

As with relay frames a text is read in two cases and no other
(`read_eq_ok_iff`): it is an object that has a link and perhaps an id
(`Written`), or it is an array of these (`Listed`). From the link and
the id the channel follows, and only when there is none is a text that
was read still refused.

That a second id is refused needs the names of an object to be a matter
of its text alone (`IsObject.names_eq`).

An id may be left out in four ways that the statement keeps apart and
the answer does not: the member is missing, it is null, it is the empty
text, or the array ends before it. In each of them the channel comes
from the link, and a link with nothing but slashes in it then leaves the
handshake without a channel, which is the one refusal that is not a
matter of form.
-/
import PairingHarness.Frame.Handshake
import PairingHarness.Proofs.Frame.Link
import PairingHarness.Proofs.Frame.Record
import PairingHarness.Proofs.Json.Encodable

namespace PairingHarness.Handshake

open Json

variable {s r : List Char} {link : String} {id : Option String}

-- ============================================================== the forms

/-- A text that is an object with the link, and with the id or without
any. An id that is null is none. -/
def Written (text : List Char) (link : String) (id : Option String) : Prop :=
  ∃ ms, IsObject ms text ∧ Field ["link"] TextSource ms (some link)
    ∧ ∃ o, Field idNames OptionalTextSource ms o ∧ o.join = id

/-- A text that is an array of the link and, unless it ends, the id. -/
def Listed (text : List Char) (link : String) (id : Option String) : Prop :=
  (∃ e, IsArray [e] text ∧ TextSource e link ∧ id = none)
    ∨ ∃ e e', IsArray [e, e'] text ∧ TextSource e link
      ∧ OptionalTextSource e' id

-- ================================================================ reading

/-- The slots of a handshake are a link that must be there and an id that
may be null or missing, under any of its three names. -/
theorem twoFields_slot :
    TwoFields slot Fields.mk ["link"] readTextField idNames
      readOptionalTextField where
  disjoint := by decide
  missing name h b := by
    cases List.mem_singleton.1 h
    rfl
  again name h a b := by
    cases List.mem_singleton.1 h
    exact ⟨"link", rfl⟩
  missing' name h a := by
    have hlink : name ≠ "link" := by
      rintro rfl
      exact absurd h (by decide)
    unfold slot
    rw [if_neg hlink, if_pos (List.contains_iff_mem.2 h)]
    rfl
  again' name h a b := by
    have hlink : name ≠ "link" := by
      rintro rfl
      exact absurd h (by decide)
    unfold slot
    rw [if_neg hlink, if_pos (List.contains_iff_mem.2 h)]
    exact ⟨"channelid", rfl⟩
  other name h h' acc := by
    unfold slot
    rw [if_neg fun he => h (List.mem_singleton.2 he),
      if_neg fun he => h' (List.contains_iff_mem.1 he)]

/-- What the reader of the object form takes is its members: one link, at
most one id. -/
theorem ofObject_eq_ok_iff {g' : Gap} :
    ofObject s = .ok ((link, id), g'.chars)
      ↔ ∃ (ms : List Member) (t : List Char), s = t ++ g'.chars
        ∧ Separated '\x7d' true (ms.map fun m => m.chars) t
        ∧ (∀ m ∈ ms, ValueForm m.value)
        ∧ Field ["link"] TextSource ms (some link)
        ∧ ∃ o, Field idNames OptionalTextSource ms o ∧ o.join = id := by
  have hread := twoFields_slot.readObject_iff (s := s)
    ⟨readTextField_sound, readTextField_complete⟩
    ⟨readOptionalTextField_sound, readOptionalTextField_complete⟩
    TextSource.form OptionalTextSource.form
  constructor
  · intro h
    obtain ⟨⟨acc, rest⟩, hfields, h₁⟩ := bind_eq_ok h
    cases acc with
    | mk link o =>
        cases link with
        | none => cases h₁
        | some link =>
            cases h₁
            obtain ⟨ms, t, a, b, hacc, hs, ht, hms, ha, hb⟩ :=
              (hread _ g').1 hfields
            cases hacc
            exact ⟨ms, t, hs, ht, hms, ha, o, hb, rfl⟩
  · rintro ⟨ms, t, hs, ht, hms, ha, o, hb, rfl⟩
    have hfields := (hread _ g').2 ⟨ms, t, _, _, rfl, hs, ht, hms, ha, hb⟩
    unfold ofObject
    rw [bind_of_ok hfields]
    rfl

/-- What the reader of the array form takes is one value or two. -/
theorem ofArray_eq_ok_iff :
    ofArray s = .ok ((link, id), r)
      ↔ ∃ (items : List (List Char)) (t : List Char), s = t ++ r
        ∧ Separated ']' true items t
        ∧ ((∃ e, items = [e] ∧ TextSource e link ∧ id = none)
          ∨ ∃ e e', items = [e, e'] ∧ TextSource e link
            ∧ OptionalTextSource e' id) := by
  constructor
  · intro h
    obtain ⟨⟨more, s₁⟩, hnext, h₁⟩ := bind_eq_ok h
    -- a list that has ended by now has no link at all
    cases more with
    | false => cases h₁
    | true =>
    obtain ⟨⟨link, s₂⟩, hlink, h₂⟩ := bind_eq_ok h₁
    obtain ⟨⟨more, s₃⟩, hnext', h₃⟩ := bind_eq_ok h₂
    cases more with
    | false =>
        cases h₃
        obtain ⟨g, rfl⟩ := nextItem_eq_false_iff.1 hnext'
        obtain ⟨lead, e, hlead, he, rfl⟩ :=
          item_of_read readTextField_sound hnext hlink
        refine ⟨[e], _, ?_, .item hlead (.close false g),
          .inl ⟨e, rfl, he, rfl⟩⟩
        simp only [List.append_assoc, List.cons_append, List.nil_append]
    | true =>
    obtain ⟨⟨id, s₄⟩, hid, h₄⟩ := bind_eq_ok h₃
    obtain ⟨rest, hend, h₅⟩ := bind_eq_ok h₄
    cases h₅
    -- a third item would have been refused at the end
    obtain ⟨e, e', t, hs, ht, he, he'⟩ := pair_of_read readTextField_sound
      readOptionalTextField_sound hnext hlink hnext' hid hend
    exact ⟨[e, e'], t, hs, ht, .inr ⟨e, e', rfl, he, he'⟩⟩
  · rintro ⟨_, t, rfl, ht, ⟨e, rfl, he, rfl⟩ | ⟨e, e', rfl, he, he'⟩⟩
    -- one item: the link, and the bracket after it
    · cases ht with
      | @item _ lead _ t _ hlead ht =>
      have hr := Separated.delimited (by decide) ht r
      cases ht with
      | close _ g =>
      obtain ⟨s₁, hnext, hlink⟩ := read_of_item
        (readTextField_complete he) he.form.starts hlead hr
      unfold ofArray
      rw [List.append_assoc, List.append_assoc, bind_of_ok hnext]
      show (readTextField s₁ >>= _) = _
      rw [bind_of_ok hlink]
      show (nextItem false _ >>= _) = _
      rw [bind_of_ok (nextItem_close false g r)]
      rfl
    -- two items: what is left after each read is where the next begins
    · obtain ⟨s₁, s₂, s₃, s₄, hnext, hlink, hnext', hid, hend⟩ :=
        read_of_pair (readTextField_complete he)
          (readOptionalTextField_complete he') he.form.starts
          he'.form.starts ht r
      unfold ofArray
      rw [bind_of_ok hnext]
      show (readTextField s₁ >>= _) = _
      rw [bind_of_ok hlink]
      show (nextItem false s₂ >>= _) = _
      rw [bind_of_ok hnext']
      show (readOptionalTextField s₃ >>= _) = _
      rw [bind_of_ok hid]
      show (readListEnd s₄ >>= _) = _
      rw [bind_of_ok hend]
      rfl

/-- The texts that a link and an id are read from. -/
theorem read_eq_ok_iff {text : List Char} :
    readRecord described ofObject ofArray text = .ok (link, id)
      ↔ Written text link id ∨ Listed text link id := by
  rw [readRecord_eq_ok_iff]
  constructor
  · rintro ⟨g, g', t, ⟨htext, h⟩ | ⟨htext, h⟩⟩
    · obtain ⟨ms, t', rfl, ht, hms, hlink, hid⟩ := ofObject_eq_ok_iff.1 h
      exact .inl ⟨ms, ⟨⟨g, g', t', htext, ht⟩, hms⟩, hlink, hid⟩
    · obtain ⟨items, t', rfl, ht, hitems⟩ := ofArray_eq_ok_iff.1 h
      rcases hitems with ⟨e, rfl, he, hid⟩ | ⟨e, e', rfl, he, he'⟩
      · exact .inr (.inl ⟨e, ⟨⟨g, g', t', htext, ht⟩,
          List.forall_mem_singleton.2 he.form⟩, he, hid⟩)
      · exact .inr (.inr ⟨e, e', ⟨⟨g, g', t', htext, ht⟩,
          List.forall_mem_cons.2
            ⟨he.form, List.forall_mem_singleton.2 he'.form⟩⟩, he, he'⟩)
  · rintro (⟨ms, ⟨⟨g, g', t, htext, ht⟩, hms⟩, hlink, hid⟩
      | ⟨e, ⟨⟨g, g', t, htext, ht⟩, -⟩, he, hid⟩
      | ⟨e, e', ⟨⟨g, g', t, htext, ht⟩, -⟩, he, he'⟩)
    · exact ⟨g, g', _, .inl ⟨htext,
        ofObject_eq_ok_iff.2 ⟨ms, t, rfl, ht, hms, hlink, hid⟩⟩⟩
    · exact ⟨g, g', _, .inr ⟨htext,
        ofArray_eq_ok_iff.2 ⟨_, t, rfl, ht, .inl ⟨e, rfl, he, hid⟩⟩⟩⟩
    · exact ⟨g, g', _, .inr ⟨htext,
        ofArray_eq_ok_iff.2 ⟨_, t, rfl, ht, .inr ⟨e, e', rfl, he, he'⟩⟩⟩⟩

-- ============================================================ the channel

/-- A text from which a link and an id were read is a handshake unless
they leave the channel without an id. -/
theorem parse_of_read {text : String}
    (h : readRecord described ofObject ofArray text.toList
      = .ok (link, id)) :
    if resolveId link id = "" then
      ∃ message, parse text = .error (.handshake message)
    else parse text = .ok ⟨link, resolveId link id⟩ := by
  unfold parse
  rw [h]
  by_cases hid : resolveId link id = ""
  · simp only [if_pos hid]
    exact ⟨_, rfl⟩
  · simp only [if_neg hid]

/-- The texts that are taken as a handshake. -/
theorem parse_eq_ok_iff {text : String} {h : Handshake} :
    parse text = .ok h
      ↔ ∃ id, (Written text.toList h.link id ∨ Listed text.toList h.link id)
        ∧ h.channelId = resolveId h.link id ∧ h.channelId ≠ "" := by
  simp only [← read_eq_ok_iff]
  constructor
  · intro hparse
    cases hread : readRecord described ofObject ofArray text.toList with
    | error e =>
        unfold parse at hparse
        rw [hread] at hparse
        cases hparse
    | ok x =>
        obtain ⟨link, id⟩ := x
        have hof := parse_of_read hread
        rw [hparse] at hof
        split at hof
        case isTrue =>
          obtain ⟨message, hmessage⟩ := hof
          cases hmessage
        case isFalse hid =>
          cases hof
          exact ⟨id, rfl, rfl, hid⟩
  · rintro ⟨id, hread, hid, hne⟩
    have hof := parse_of_read hread
    rw [← hid, if_neg hne] at hof
    exact hof

/-- A text that is not taken is refused as a handshake. -/
theorem parse_eq_handshake {text : String} (h : ∀ h, parse text ≠ .ok h) :
    ∃ message, parse text = .error (.handshake message) := by
  cases hread : readRecord described ofObject ofArray text.toList with
  | error e =>
      unfold parse
      rw [hread]
      exact ⟨_, rfl⟩
  | ok x =>
      obtain ⟨link, id⟩ := x
      have hof := parse_of_read hread
      split at hof
      case isTrue => exact hof
      case isFalse => exact absurd hof (h _)

/-- An id that says something is the channel. -/
theorem resolveId_given {i : String} (h : id = some i) (hi : i ≠ "") :
    resolveId link id = i := by
  rw [h]
  exact if_neg hi

/-- Otherwise the channel is the last segment of the link (`link_tail`). -/
theorem resolveId_derived (h : ∀ i, id = some i → i = "") :
    resolveId link id = Link.tail link := by
  cases id with
  | none => rfl
  | some i => exact if_pos (h i rfl)

/-- No channel is found without an id and with a link of slashes only. -/
theorem resolveId_eq_empty_iff :
    resolveId link id = ""
      ↔ (∀ i, id = some i → i = "") ∧ ∀ c ∈ link.toList, c = '/' := by
  by_cases hno : ∀ i, id = some i → i = ""
  · rw [resolveId_derived hno, Link.tail_eq_empty_iff]
    exact ⟨fun h => ⟨hno, h⟩, fun h => h.2⟩
  · refine ⟨fun h => absurd (fun i hi => ?_) hno, fun h => absurd h.1 hno⟩
    by_cases hne : i = ""
    · exact hne
    · rw [← resolveId_given hi hne, h]

/-- The channel that a handshake names. An id that is there and not
empty is the channel; without one it is the last segment of the link,
and the frame is refused where the link has none. Two ids are refused
whatever they are. -/
theorem parse_channel (text : String) :
    (∀ ms link id, IsObject ms text.toList →
        Field ["link"] TextSource ms (some link) →
        Field idNames OptionalTextSource ms id →
        (∀ i, id.join = some i → i ≠ "" → parse text = .ok ⟨link, i⟩)
          ∧ ((∀ i, id.join = some i → i = "") →
            (∃ c ∈ link.toList, c ≠ '/') →
            parse text = .ok ⟨link, Link.tail link⟩)
          ∧ ((∃ message, parse text = .error (.handshake message))
            ↔ (∀ i, id.join = some i → i = "")
              ∧ ∀ c ∈ link.toList, c = '/'))
      ∧ (∀ ms, IsObject ms text.toList → 2 ≤ (bearing idNames ms).length →
        ∃ message, parse text = .error (.handshake message))
      ∧ ∀ h, parse text = .ok h → h.channelId ≠ ""
        ∧ (h.channelId = Link.tail h.link → '/' ∉ h.channelId.toList) := by
  refine ⟨fun ms link id hobject hlink hid => ?_, fun ms hobject htwo => ?_,
    fun h hparse => ⟨?_, fun htail => ?_⟩⟩
  · have hof := parse_of_read (read_eq_ok_iff.2
      (.inl ⟨ms, hobject, hlink, id, hid, rfl⟩))
    -- what is read is a link and perhaps an id; the rest is `resolveId`
    refine ⟨fun i hi hne => ?_, fun hno hslash => ?_, ?_⟩
    · rw [resolveId_given hi hne, if_neg hne] at hof
      exact hof
    · have htail : Link.tail link ≠ "" := by
        rw [Ne, Link.tail_eq_empty_iff]
        obtain ⟨c, hc, hne⟩ := hslash
        exact fun h => hne (h c hc)
      rw [resolveId_derived hno, if_neg htail] at hof
      exact hof
    · rw [← resolveId_eq_empty_iff]
      split at hof
      case isTrue hresolve => exact ⟨fun _ => hresolve, fun _ => hof⟩
      case isFalse hresolve =>
        refine ⟨fun h => ?_, fun h => absurd h hresolve⟩
        obtain ⟨message, hmessage⟩ := h
        rw [hmessage] at hof
        cases hof
  · refine parse_eq_handshake fun h hparse => ?_
    obtain ⟨id, hread, -⟩ := parse_eq_ok_iff.1 hparse
    -- the text is an object by assumption, so neither list form applies
    rcases hread with ⟨ms', hobject', -, o, hfield, -⟩
      | ⟨e, harray, -⟩ | ⟨e, e', harray, -⟩
    · exact not_field_of_two hobject htwo hobject' hfield
    · exact hobject.not_isArray harray
    · exact hobject.not_isArray harray
  · obtain ⟨id, -, -, hne⟩ := parse_eq_ok_iff.1 hparse
    exact hne
  · rw [htail]
    exact Link.slash_not_mem_tail h.link

/-- An id that is null beside a link with a slash at its end, and an id
under two spellings. -/
theorem parse_channel_null_and_twice :
    parse "\x7b\"channel_id\":null,\"link\":\"/ws/a/\"\x7d"
        = .ok ⟨"/ws/a/", "a"⟩
      ∧ ∃ message, parse "\x7b\"channelid\":\"a\",\"channelId\":1\x7d"
        = .error (.handshake message) := by
  have hnull : Writes 0 "null".toList .null := .null 0
  have hlink : Writes 0 (quote "/ws/a/".toList) (.text "/ws/a/") :=
    .text 0 (.plain_of_all (by decide))
  have hid : Writes 0 (quote "a".toList) (.text "a") :=
    .text 0 (.plain_of_all (by decide))
  let one : Numeral := ⟨false,
    ⟨['1'], List.cons_ne_nil _ _, List.forall_mem_singleton.2 rfl⟩,
    by decide, none, none⟩
  constructor
  · let ms : List Member :=
      [.plain "channel_id" (by decide) "null".toList,
        .plain "link" (by decide) (quote "/ws/a/".toList)]
    have hobject : IsObject ms
        "\x7b\"channel_id\":null,\"link\":\"/ws/a/\"\x7d".toList :=
      ⟨⟨.none, .none, _, by decide, .item (.first .none)
          (.item (.next .none .none) (.close false .none))⟩,
        List.forall_mem_cons.2 ⟨hnull.form,
          List.forall_mem_singleton.2 hlink.form⟩⟩
    have htail : Link.tail "/ws/a/" = "a" := by decide
    rw [← htail]
    exact ((parse_channel _).1 ms "/ws/a/" (some none) hobject
      ⟨_, rfl, hlink⟩ ⟨_, rfl, hnull⟩).2.1 (fun _ h => nomatch h)
      ⟨'a', by decide, by decide⟩
  · let ms : List Member :=
      [.plain "channelid" (by decide) (quote "a".toList),
        .plain "channelId" (by decide) one.chars]
    have hobject : IsObject ms
        "\x7b\"channelid\":\"a\",\"channelId\":1\x7d".toList :=
      ⟨⟨.none, .none, _, by decide, .item (.first .none)
          (.item (.next .none .none) (.close false .none))⟩,
        List.forall_mem_cons.2 ⟨hid.form,
          List.forall_mem_singleton.2 (.number one)⟩⟩
    exact (parse_channel _).2.1 ms hobject (by decide)

end PairingHarness.Handshake
