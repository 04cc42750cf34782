/-
Records as they are written, and what the reader of records accepts.

A text is an object (`IsObject`) or an array (`IsArray`) when it is that
and nothing else but blanks about it, and every value in it is one by
the grammar. What an object has under some names is told by `Field`:
nothing, or the value of its only member that bears one of them.

Both frames are records of two fields, and of their slots only one thing
is used, `TwoFields`: a name of a field that is still missing has its
value read, one of a field that is there is refused, and the value of a
member with another name is passed over. The induction over the members
carries what a field was before them (`Takes`).

Soundness and completeness are stated for a reader and a source of texts
alike (`Sound`, `Complete`), once for each kind of field. The two
inductions over the members (`TwoFields.sound`, `TwoFields.accepts`)
then use nothing of the fields but these, so a record with fields of
another kind needs three lemmas about the new kind and none about
records.

Members with other names are read by the grammar alone and dropped. It
is for them that the grammar has to be complete: a member that is passed
over may be any value that the depth allows, and none is refused for
what it is.
-/
import PairingHarness.Frame.Record
import PairingHarness.Proofs.Json.Skip

namespace PairingHarness.Json

variable {s r e t text : List Char} {first : Bool}

-- ============================================================ whole texts

/-- A text that is one object of these members. -/
structure IsObject (ms : List Member) (text : List Char) : Prop where
  written : ∃ (g g' : Gap) (t : List Char),
    text = g.chars ++ '\x7b' :: (t ++ g'.chars)
      ∧ Separated '\x7d' true (ms.map fun m => m.chars) t
  values : ∀ m ∈ ms, ValueForm m.value

/-- A text that is one array of these items. -/
structure IsArray (items : List (List Char)) (text : List Char) : Prop where
  written : ∃ (g g' : Gap) (t : List Char),
    text = g.chars ++ '[' :: (t ++ g'.chars) ∧ Separated ']' true items t
  values : ∀ e ∈ items, ValueForm e

/-- No text is both an object and an array. -/
theorem IsObject.not_isArray {ms : List Member} {items : List (List Char)}
    (h : IsObject ms text) : ¬IsArray items text := by
  intro h'
  obtain ⟨g, g₁, t, hobject, -⟩ := h.written
  obtain ⟨g', _, _, harray, -⟩ := h'.written
  have hspace : skipSpace text = '\x7b' :: (t ++ g₁.chars) := by
    rw [hobject, skipSpace_gap g (solid_cons rfl)]
  rw [harray, skipSpace_gap g' (solid_cons rfl)] at hspace
  cases hspace

/-- The names before a closing brace are a matter of the text alone. -/
theorem Separated.names_eq {ms ms' : List Member} {t t' r r' : List Char}
    (h : Separated '\x7d' first (ms.map fun m => m.chars) t)
    (hms : ∀ m ∈ ms, ValueForm m.value)
    (h' : Separated '\x7d' first (ms'.map fun m => m.chars) t')
    (hms' : ∀ m ∈ ms', ValueForm m.value) (heq : t ++ r = t' ++ r') :
    ms.map (fun m => m.name) = ms'.map (fun m => m.name) := by
  -- both are what the readers find, one member after the other
  induction ms generalizing ms' first t t' with
  | nil =>
      cases h with
      | close _ g =>
          cases ms' with
          | nil => rfl
          | cons m' ms' =>
              cases h' with
              | @item _ lead' _ t' _ hlead' ht' =>
                  obtain ⟨s₁, hname, -⟩ := head_of_member hlead' m' (t' ++ r')
                  simp only [← List.append_assoc] at hname
                  rw [← List.append_assoc] at heq
                  rw [← heq, nextName_close] at hname
                  cases hname
  | cons m ms ih =>
      cases h with
      | @item _ lead _ t _ hlead ht =>
          obtain ⟨s₁, hname, hcolon⟩ := head_of_member hlead m (t ++ r)
          cases ms' with
          | nil =>
              cases h' with
              | close _ g =>
                  simp only [← List.append_assoc] at hname heq
                  rw [heq, nextName_close] at hname
                  cases hname
          | cons m' ms' =>
              cases h' with
              | @item _ lead' _ t' _ hlead' ht' =>
                  obtain ⟨s₁', hname', hcolon'⟩ :=
                    head_of_member hlead' m' (t' ++ r')
                  simp only [List.append_assoc] at heq
                  rw [heq, hname'] at hname
                  injection hname with hname
                  injection hname with hnames hs
                  injection hnames with hnames
                  rw [← hs, hcolon'] at hcolon
                  injection hcolon with hvalue
                  obtain ⟨hv, hms⟩ := List.forall_mem_cons.1 hms
                  obtain ⟨hv', hms'⟩ := List.forall_mem_cons.1 hms'
                  have hskip := skipValue_complete hv m.after
                    (Separated.delimited (by decide) ht r)
                  rw [← hvalue, skipValue_complete hv' m'.after
                    (Separated.delimited (by decide) ht' r')] at hskip
                  injection hskip with hrest
                  rw [List.map_cons, List.map_cons, hnames,
                    ih ht hms ht' hms' hrest.symm]

/-- The names of an object are a matter of its text alone. -/
theorem IsObject.names_eq {ms ms' : List Member} (h : IsObject ms text)
    (h' : IsObject ms' text) :
    ms.map (fun m => m.name) = ms'.map (fun m => m.name) := by
  obtain ⟨g, g₁, t, htext, ht⟩ := h.written
  obtain ⟨g', g₁', t', htext', ht'⟩ := h'.written
  have hrest : t ++ g₁.chars = t' ++ g₁'.chars := by
    have hspace := skipSpace_gap g' (s := '\x7b' :: (t' ++ g₁'.chars))
      (solid_cons rfl)
    rw [← htext', htext, skipSpace_gap g (solid_cons rfl)] at hspace
    injection hspace
  exact ht.names_eq h.values ht' h'.values hrest

/-- Blanks alone are all that may follow. -/
theorem skipSpace_eq_nil_iff :
    skipSpace s = [] ↔ ∃ g : Gap, s = g.chars := by
  rw [skipSpace_eq_iff]
  constructor
  · rintro ⟨-, g, rfl⟩
    exact ⟨g, List.append_nil _⟩
  · rintro ⟨g, rfl⟩
    exact ⟨solid_nil, g, (List.append_nil _).symm⟩

/-- What was read is all of the text. -/
theorem finish_eq_ok_iff {α : Type} {x : Except Fault (α × List Char)}
    {a : α} :
    (do
      let (a, rest) ← x
      match skipSpace rest with
      | [] => return a
      | r => .error (.within .trailingCharacters r)) = .ok a
      ↔ ∃ g : Gap, x = .ok (a, g.chars) := by
  constructor
  · intro h
    obtain ⟨⟨a', rest⟩, hread, h₁⟩ := bind_eq_ok h
    simp only [] at h₁
    split at h₁
    case h_1 hrest =>
      cases h₁
      obtain ⟨g, rfl⟩ := skipSpace_eq_nil_iff.1 hrest
      exact ⟨g, hread⟩
    case h_2 => cases h₁
  · rintro ⟨g, rfl⟩
    rw [bind_of_ok rfl]
    simp only [skipSpace_eq_nil_iff.2 ⟨g, rfl⟩]
    rfl

/-- A record is read from an object or from an array, with nothing but
blanks about it. -/
theorem readRecord_eq_ok_iff {α : Type} {wanted : String}
    {ofObject ofArray : Reader α} {a : α} :
    readRecord wanted ofObject ofArray s = .ok a
      ↔ ∃ (g g' : Gap) (t : List Char),
        (s = g.chars ++ '\x7b' :: t ∧ ofObject t = .ok (a, g'.chars))
          ∨ (s = g.chars ++ '[' :: t ∧ ofArray t = .ok (a, g'.chars)) := by
  constructor
  · intro h
    obtain ⟨g, hg⟩ := exists_gap s
    unfold readRecord at h
    cases hs : skipSpace s with
    | nil =>
        rw [hs] at h
        cases h
    | cons c t =>
        rw [hs] at h hg
        simp only [] at h
        by_cases harray : c = '['
        · rw [if_pos harray] at h
          obtain ⟨g', hread⟩ := finish_eq_ok_iff.1 h
          exact ⟨g, g', t, .inr ⟨harray ▸ hg, hread⟩⟩
        rw [if_neg harray] at h
        by_cases hobject : c = '\x7b'
        · rw [if_pos hobject] at h
          obtain ⟨g', hread⟩ := finish_eq_ok_iff.1 h
          exact ⟨g, g', t, .inl ⟨hobject ▸ hg, hread⟩⟩
        · rw [if_neg hobject] at h
          cases h
  · rintro ⟨g, g', t, ⟨rfl, hread⟩ | ⟨rfl, hread⟩⟩
    · unfold readRecord
      rw [skipSpace_gap g (solid_cons rfl)]
      exact finish_eq_ok_iff.2 ⟨g', hread⟩
    · unfold readRecord
      rw [skipSpace_gap g (solid_cons rfl)]
      exact finish_eq_ok_iff.2 ⟨g', hread⟩

-- ========================================================= kinds of fields

/-- What writes a string. -/
def TextSource (e : List Char) (t : String) : Prop :=
  Writes 0 e (.text t)

/-- What writes a string or null. -/
def OptionalTextSource (e : List Char) : Option String → Prop
  | none => Writes 0 e .null
  | some t => Writes 0 e (.text t)

/-- What writes an object with at most `depth` arrays and objects inside
each other, itself counted. -/
def ObjectSource (depth : Nat) (e : List Char)
    (members : List (String × Value)) : Prop :=
  Writes depth e (.object members)

/-- A text that is wanted is a value by the grammar. -/
theorem TextSource.form {v : String} (h : TextSource e v) : ValueForm e :=
  Writes.form h

/-- So is a text that may be null. -/
theorem OptionalTextSource.form {v : Option String}
    (h : OptionalTextSource e v) : ValueForm e := by
  cases v with
  | none => exact Writes.form h
  | some t => exact Writes.form h

/-- So is an object that is wanted. -/
theorem ObjectSource.form {depth : Nat} {v : List (String × Value)}
    (h : ObjectSource depth e v) : ValueForm e :=
  Writes.form h

/-- What is read as a text is one, and the rest is left. -/
theorem readTextField_sound : Sound TextSource readTextField := by
  intro s r v h
  obtain ⟨g, hg⟩ := exists_gap s
  unfold readTextField at h
  cases hs : skipSpace s with
  | nil =>
      rw [hs] at h
      cases h
  | cons c rest =>
      rw [hs] at h hg
      simp only [] at h
      split at h
      case isFalse => cases h
      case isTrue hc =>
      obtain ⟨⟨cs, r'⟩, hread, heq⟩ := map_eq_ok h
      cases heq
      obtain ⟨source, hspells, rfl⟩ := readText_eq_ok_iff.1 hread
      refine ⟨g, quote source, ?_, .text 0 (by
        rw [String.toList_ofList]
        exact hspells)⟩
      rw [hg, hc, quote_append]

/-- And every text is read, whatever follows it. -/
theorem readTextField_complete : Complete TextSource readTextField := by
  intro e v h g r _
  cases h with
  | text _ hspells =>
      unfold readTextField
      rw [quote_append, skipSpace_gap g (solid_cons rfl)]
      show (readText .plain _).map _ = _
      rw [readText_eq_ok_iff.2 ⟨_, hspells, rfl⟩]
      show Except.ok (String.ofList _, r) = _
      rw [String.ofList_toList]

/-- What is read as a text that may be null is a text or null. -/
theorem readOptionalTextField_sound :
    Sound OptionalTextSource readOptionalTextField := by
  intro s r v h
  obtain ⟨g, hg⟩ := exists_gap s
  unfold readOptionalTextField at h
  split at h
  case h_1 rest hs =>
    obtain ⟨r', hword, heq⟩ := map_eq_ok h
    cases heq
    rw [hs, readWord_eq_ok_iff.1 hword] at hg
    exact ⟨g, _, hg, Writes.null 0⟩
  case h_2 =>
    obtain ⟨⟨t, r'⟩, hread, heq⟩ := map_eq_ok h
    cases heq
    exact readTextField_sound hread

/-- And either of them is read. -/
theorem readOptionalTextField_complete :
    Complete OptionalTextSource readOptionalTextField := by
  intro e v h g r hr
  unfold readOptionalTextField
  cases v with
  | none =>
      cases h with
      | null _ =>
          rw [skipSpace_gap g (ValueForm.null.solid r)]
          rfl
  | some t =>
      rw [readTextField_complete h g hr]
      cases h with
      | text _ _ =>
          rw [quote_append, skipSpace_gap g (solid_cons rfl)]
          rfl

/-- What is read as an object is one, no deeper than the limit. -/
theorem readObjectField_sound (depth : Nat) :
    Sound (ObjectSource depth) (readObjectField depth) := by
  intro s r v h
  obtain ⟨g, hg⟩ := exists_gap s
  unfold readObjectField at h
  cases hs : skipSpace s with
  | nil =>
      rw [hs] at h
      cases h
  | cons c rest =>
      rw [hs] at h hg
      simp only [] at h
      split at h
      case isFalse => cases h
      case isTrue hc =>
      cases depth with
      | zero => cases h
      | succ depth =>
          obtain ⟨ms, t, rfl, ht, hms, rfl⟩ :=
            readMembers_sound (readValue_sound depth) h
          exact ⟨g, '\x7b' :: t, by rw [hg, hc]; rfl, .object ht hms⟩

/-- And every object within the limit is read. -/
theorem readObjectField_complete (depth : Nat) :
    Complete (ObjectSource depth) (readObjectField depth) := by
  intro e v h g r hr
  cases h with
  | @object depth ms t ht hms =>
      unfold readObjectField
      rw [List.cons_append, skipSpace_gap g (solid_cons rfl)]
      have hlength := ht.length_le
      rw [List.length_map, if_pos rfl] at hlength
      exact readMembers_accepts
        (fun m hm => readValue_complete depth (hms m hm))
        (by rw [List.length_append]; omega) ht r

/-- The array ends with its closing bracket. -/
theorem readListEnd_eq_ok_iff :
    readListEnd s = .ok r ↔ ∃ g : Gap, s = g.chars ++ ']' :: r := by
  constructor
  · intro h
    obtain ⟨g, hg⟩ := exists_gap s
    unfold readListEnd at h
    cases hs : skipSpace s with
    | nil =>
        rw [hs] at h
        cases h
    | cons c rest =>
        rw [hs] at h hg
        simp only [] at h
        by_cases hc : c = ']'
        · rw [if_pos hc] at h
          cases h
          exact ⟨g, hc ▸ hg⟩
        rw [if_neg hc] at h
        split at h
        · split at h <;> cases h
        · cases h
  · rintro ⟨g, rfl⟩
    unfold readListEnd
    rw [skipSpace_gap g (solid_cons rfl)]
    rfl

section pairs

variable {α β : Type} {read : Reader α} {read' : Reader β}
  {P : List Char → α → Prop} {Q : List Char → β → Prop} {a : α} {b : β}
  {e' : List Char}

/-- An array of two items that were read. -/
theorem pair_of_read (hP : Sound P read) (hQ : Sound Q read')
    {s₁ s₂ s₃ s₄ : List Char} (hnext : nextItem true s = .ok (true, s₁))
    (ha : read s₁ = .ok (a, s₂)) (hnext' : nextItem false s₂ = .ok (true, s₃))
    (hb : read' s₃ = .ok (b, s₄)) (hend : readListEnd s₄ = .ok r) :
    ∃ e e' t, s = t ++ r ∧ Separated ']' true [e, e'] t ∧ P e a ∧ Q e' b := by
  obtain ⟨g, rfl⟩ := readListEnd_eq_ok_iff.1 hend
  obtain ⟨lead', e', hlead', he', rfl⟩ := item_of_read hQ hnext' hb
  obtain ⟨lead, e, hlead, he, rfl⟩ := item_of_read hP hnext ha
  refine ⟨e, e', _, ?_, .item hlead (.item hlead' (.close false g)), he, he'⟩
  simp only [List.append_assoc, List.cons_append, List.nil_append]

/-- An array of two items that the readers accept. -/
theorem read_of_pair (ha : Accepts read e a) (hb : Accepts read' e' b)
    (he : Starts e) (he' : Starts e') (ht : Separated ']' true [e, e'] t)
    (r : List Char) :
    ∃ s₁ s₂ s₃ s₄, nextItem true (t ++ r) = .ok (true, s₁)
      ∧ read s₁ = .ok (a, s₂) ∧ nextItem false s₂ = .ok (true, s₃)
      ∧ read' s₃ = .ok (b, s₄) ∧ readListEnd s₄ = .ok r := by
  cases ht with
  | @item _ lead _ t _ hlead ht =>
  have hr := Separated.delimited (by decide) ht r
  cases ht with
  | @item _ lead' _ t _ hlead' ht =>
  have hr' := Separated.delimited (by decide) ht r
  cases ht with
  | close _ g =>
  obtain ⟨s₁, hnext, ha⟩ := read_of_item ha he hlead hr
  obtain ⟨s₃, hnext', hb⟩ := read_of_item hb he' hlead' hr'
  simp only [List.append_assoc] at hnext ha hnext' hb ⊢
  exact ⟨s₁, _, s₃, _, hnext, ha, hnext', hb,
    readListEnd_eq_ok_iff.2 ⟨g, rfl⟩⟩

end pairs

-- ======================================================= fields of a record

section fields

variable {α : Type} {names : List String} {P : List Char → α → Prop}
  {m : Member} {ms : List Member} {o o' : Option α} {a : α}

/-- The members that bear one of the names. -/
def bearing (names : List String) (ms : List Member) : List Member :=
  ms.filter fun m => names.contains m.name

/-- What an object has under some names: nothing, or the value of its
only member that bears one of them. -/
def Field (names : List String) (P : List Char → α → Prop)
    (ms : List Member) : Option α → Prop
  | none => bearing names ms = []
  | some a => ∃ m, bearing names ms = [m] ∧ P m.value a

/-- A field that was `o` before the members is the second after them. -/
def Takes (names : List String) (P : List Char → α → Prop) :
    Option α → List Member → Option α → Prop
  | none, ms, o' => Field names P ms o'
  | some a, ms, o' => bearing names ms = [] ∧ o' = some a

theorem bearing_cons_of_mem (h : m.name ∈ names) (ms : List Member) :
    bearing names (m :: ms) = m :: bearing names ms :=
  List.filter_cons_of_pos (List.contains_iff_mem.2 h)

theorem bearing_cons_of_not_mem (h : m.name ∉ names) (ms : List Member) :
    bearing names (m :: ms) = bearing names ms :=
  List.filter_cons_of_neg fun hm => h (List.contains_iff_mem.1 hm)

/-- No members change nothing about a field. -/
theorem takes_nil : Takes names P o [] o' ↔ o' = o := by
  cases o with
  | some a => exact ⟨fun h => h.2, fun h => ⟨rfl, h⟩⟩
  | none =>
      cases o' with
      | none => exact ⟨fun _ => rfl, fun _ => rfl⟩
      | some a =>
          constructor
          · rintro ⟨m, h, -⟩
            cases h
          · intro h
            cases h

/-- A member of another name leaves the field as it is. -/
theorem takes_other (h : m.name ∉ names) :
    Takes names P o (m :: ms) o' ↔ Takes names P o ms o' := by
  cases o <;> cases o' <;>
    simp only [Takes, Field, bearing_cons_of_not_mem h]

/-- A member of its name sets the field that was missing. -/
theorem takes_missing (h : m.name ∈ names) :
    Takes names P none (m :: ms) o'
      ↔ ∃ a, P m.value a ∧ Takes names P (some a) ms o' := by
  cases o' with
  | none =>
      simp only [Takes, Field, bearing_cons_of_mem h, List.cons_ne_nil,
        reduceCtorEq, and_false, exists_false]
  | some a =>
      simp only [Takes, Field, bearing_cons_of_mem h, List.cons.injEq]
      constructor
      · rintro ⟨_, ⟨rfl, hms⟩, ha⟩
        exact ⟨a, ha, hms, rfl⟩
      · rintro ⟨_, ha, hms, ⟨⟩⟩
        exact ⟨m, ⟨rfl, hms⟩, ha⟩

/-- An object that has two members for a field does not have the
field. -/
theorem not_field_of_two {text : List Char} {ms' : List Member}
    (h : IsObject ms text) (htwo : 2 ≤ (bearing names ms).length)
    (h' : IsObject ms' text) : ¬Field names P ms' o := by
  have hbearing : ∀ ms : List Member, (bearing names ms).length
      = ((ms.map fun m => m.name).filter names.contains).length := by
    intro ms
    rw [List.filter_map, List.length_map]
    rfl
  rw [hbearing, h.names_eq h', ← hbearing] at htwo
  intro hfield
  cases o with
  | none =>
      rw [show bearing names ms' = [] from hfield] at htwo
      exact absurd htwo (by decide)
  | some a =>
      obtain ⟨m, hm, -⟩ := hfield
      rw [hm] at htwo
      exact absurd htwo (by simp)

/-- A field that is there is not set again. -/
theorem not_takes_again (h : m.name ∈ names) :
    ¬Takes names P (some a) (m :: ms) o' := by
  simp only [Takes, bearing_cons_of_mem h, List.cons_ne_nil, false_and,
    not_false_eq_true]

end fields

-- ============================================================ two fields

section twoFields

variable {σ α β : Type} {slot : σ → String → Slot σ}
  {fields : Option α → Option β → σ} {names names' : List String}
  {read : Reader α} {read' : Reader β}
  {P : List Char → α → Prop} {Q : List Char → β → Prop}

/-- The slot of a record of two fields. -/
structure TwoFields (slot : σ → String → Slot σ)
    (fields : Option α → Option β → σ) (names : List String)
    (read : Reader α) (names' : List String) (read' : Reader β) : Prop where
  disjoint : ∀ name ∈ names, name ∉ names'
  missing : ∀ name ∈ names, ∀ b, slot (fields none b) name
    = .reads fun s => (read s).map fun (a, r) => (fields (some a) b, r)
  again : ∀ name ∈ names, ∀ a b,
    ∃ field, slot (fields (some a) b) name = .taken field
  missing' : ∀ name ∈ names', ∀ a, slot (fields a none) name
    = .reads fun s => (read' s).map fun (b, r) => (fields a (some b), r)
  again' : ∀ name ∈ names', ∀ a b,
    ∃ field, slot (fields a (some b)) name = .taken field
  other : ∀ name, name ∉ names → name ∉ names' →
    ∀ acc, slot acc name = .unknown

/-- The value of a field is read behind the colon, kept, and the members
after it are read. -/
theorem value_of_field {γ : Type} {value : Reader γ}
    {R : List Char → γ → Prop} (hR : Sound R value) (keep : γ → σ)
    (more : σ → List Char → Except Fault (σ × List Char))
    {x : σ × List Char}
    (h : (readColon s >>= fun s =>
      (value s).map (fun c => (keep c.1, c.2)) >>= fun y => more y.1 y.2)
        = .ok x) :
    ∃ (g : Gap) (e : List Char) (c : γ) (r : List Char),
      readColon s = .ok (g.chars ++ (e ++ r)) ∧ R e c
        ∧ more (keep c) r = .ok x := by
  obtain ⟨s₁, hcolon, h₁⟩ := bind_eq_ok h
  obtain ⟨⟨_, r⟩, hvalue, h₂⟩ := bind_eq_ok h₁
  obtain ⟨⟨c, _⟩, hc, heq⟩ := map_eq_ok hvalue
  cases heq
  obtain ⟨g, e, rfl, he⟩ := hR hc
  exact ⟨g, e, c, _, hcolon, he, h₂⟩

/-- The members that were read set the two fields. -/
theorem TwoFields.sound
    (h : TwoFields slot fields names read names' read')
    (hP : Sound P read) (hQ : Sound Q read')
    (hPform : ∀ {e a}, P e a → ValueForm e)
    (hQform : ∀ {e b}, Q e b → ValueForm e) {fuel : Nat} {a : Option α}
    {b : Option β} {acc : σ}
    (hread : readFields slot fuel first (fields a b) s = .ok (acc, r)) :
    ∃ (ms : List Member) (t : List Char) (a' : Option α) (b' : Option β),
      acc = fields a' b' ∧ s = t ++ r
        ∧ Separated '\x7d' first (ms.map fun m => m.chars) t
        ∧ (∀ m ∈ ms, ValueForm m.value)
        ∧ Takes names P a ms a' ∧ Takes names' Q b ms b' := by
  -- on the bound that the reader carries, which is only there to let it end;
  -- one case for each thing that may come next
  induction fuel generalizing first s a b with
  | zero => cases hread
  | succ fuel ih =>
      obtain ⟨⟨name, s₁⟩, hnext, h₁⟩ := bind_eq_ok hread
      cases name with
      | none =>
          cases h₁
          obtain ⟨g, rfl⟩ := nextName_eq_none_iff.1 hnext
          refine ⟨[], g.chars ++ ['\x7d'], a, b, rfl, ?_, .close first g,
            (fun _ hm => nomatch hm), takes_nil.2 rfl, takes_nil.2 rfl⟩
          rw [List.append_assoc]
          rfl
      | some name =>
          simp only [] at h₁
          by_cases hname : name ∈ names
          · have hname' := h.disjoint name hname
            cases a with
            | some a =>
                obtain ⟨field, hslot⟩ := h.again name hname a b
                rw [hslot] at h₁
                cases h₁
            | none =>
                rw [h.missing name hname b] at h₁
                obtain ⟨g, e, v, s₂, hcolon, he, h₂⟩ := value_of_field hP
                  (fun v => fields (some v) b) (readFields slot fuel false) h₁
                obtain ⟨ms, t, a', b', rfl, rfl, ht, hms, ha, hb⟩ := ih h₂
                obtain ⟨lead, m, hlead, rfl, rfl, rfl⟩ :=
                  member_of_head hnext hcolon rfl
                refine ⟨m :: ms, lead ++ (m.chars ++ t), a', b', rfl, ?_,
                  .item hlead ht, List.forall_mem_cons.2 ⟨hPform he, hms⟩,
                  (takes_missing hname).2 ⟨v, he, ha⟩,
                  (takes_other hname').2 hb⟩
                simp only [List.append_assoc]
          by_cases hname' : name ∈ names'
          · cases b with
            | some b =>
                obtain ⟨field, hslot⟩ := h.again' name hname' a b
                rw [hslot] at h₁
                cases h₁
            | none =>
                rw [h.missing' name hname' a] at h₁
                obtain ⟨g, e, v, s₂, hcolon, he, h₂⟩ := value_of_field hQ
                  (fun v => fields a (some v)) (readFields slot fuel false) h₁
                obtain ⟨ms, t, a', b', rfl, rfl, ht, hms, ha, hb⟩ := ih h₂
                obtain ⟨lead, m, hlead, rfl, rfl, rfl⟩ :=
                  member_of_head hnext hcolon rfl
                refine ⟨m :: ms, lead ++ (m.chars ++ t), a', b', rfl, ?_,
                  .item hlead ht, List.forall_mem_cons.2 ⟨hQform he, hms⟩,
                  (takes_other hname).2 ha,
                  (takes_missing hname').2 ⟨v, he, hb⟩⟩
                simp only [List.append_assoc]
          · rw [h.other name hname hname'] at h₁
            obtain ⟨s₂, hcolon, h₂⟩ := bind_eq_ok h₁
            obtain ⟨s₃, hskip, h₃⟩ := bind_eq_ok h₂
            obtain ⟨g, e, hs, he⟩ := skipValue_sound hskip
            obtain ⟨ms, t, a', b', rfl, rfl, ht, hms, ha, hb⟩ := ih h₃
            obtain ⟨lead, m, hlead, rfl, rfl, rfl⟩ :=
              member_of_head hnext hcolon hs
            refine ⟨m :: ms, lead ++ (m.chars ++ t), a', b', rfl, ?_,
              .item hlead ht, List.forall_mem_cons.2 ⟨he, hms⟩,
              (takes_other hname).2 ha, (takes_other hname').2 hb⟩
            simp only [List.append_assoc]

/-- Members that set the two fields are read. -/
theorem TwoFields.accepts
    (h : TwoFields slot fields names read names' read')
    (hP : Complete P read) (hQ : Complete Q read') {ms : List Member}
    (hms : ∀ m ∈ ms, ValueForm m.value) {a a' : Option α} {b b' : Option β}
    (ha : Takes names P a ms a') (hb : Takes names' Q b ms b') {fuel : Nat}
    (hfuel : ms.length < fuel)
    (ht : Separated '\x7d' first (ms.map fun m => m.chars) t)
    (r : List Char) :
    readFields slot fuel first (fields a b) (t ++ r)
      = .ok (fields a' b', r) := by
  -- on the members; the fuel only bounds their number and falls with them
  induction ms generalizing first t a b fuel with
  | nil =>
      cases ht with
      | close _ g =>
          obtain ⟨fuel, rfl⟩ := Nat.exists_eq_add_of_lt hfuel
          rw [takes_nil.1 ha, takes_nil.1 hb,
            show ([] : List Member).length + fuel + 1 = fuel + 1 by simp]
          unfold readFields
          rw [nextName_close]
          rfl
  | cons m ms ih =>
      cases ht with
      | @item _ lead _ t _ hlead ht =>
          cases fuel with
          | zero => exact absurd hfuel (Nat.not_lt_zero _)
          | succ fuel =>
              obtain ⟨hvalue, hms⟩ := List.forall_mem_cons.1 hms
              have hrest := Separated.delimited (by decide) ht r
              have hlater := fun {a b} ha hb => ih (a := a) (b := b) hms ha hb
                (Nat.lt_of_succ_lt_succ hfuel) ht
              obtain ⟨s₁, hnext, hcolon⟩ := head_of_member hlead m (t ++ r)
              unfold readFields
              rw [List.append_assoc, List.append_assoc, bind_of_ok hnext]
              simp only []
              -- a member is the first field, the second or another; a field
              -- that is there already cannot come again
              by_cases hname : m.name ∈ names
              · have hname' := h.disjoint m.name hname
                cases a with
                | some a => exact absurd ha (not_takes_again hname)
                | none =>
                    obtain ⟨v, hv, ha⟩ := (takes_missing hname).1 ha
                    rw [h.missing m.name hname b]
                    show (readColon s₁ >>= _) = _
                    rw [bind_of_ok hcolon]
                    show ((read _).map _ >>= _) = _
                    rw [hP hv m.after hrest]
                    exact hlater ha ((takes_other hname').1 hb)
              by_cases hname' : m.name ∈ names'
              · cases b with
                | some b => exact absurd hb (not_takes_again hname')
                | none =>
                    obtain ⟨v, hv, hb⟩ := (takes_missing hname').1 hb
                    rw [h.missing' m.name hname' a]
                    show (readColon s₁ >>= _) = _
                    rw [bind_of_ok hcolon]
                    show ((read' _).map _ >>= _) = _
                    rw [hQ hv m.after hrest]
                    exact hlater ((takes_other hname).1 ha) hb
              · rw [h.other m.name hname hname']
                show (readColon s₁ >>= _) = _
                rw [bind_of_ok hcolon,
                  bind_of_ok (skipValue_complete hvalue m.after hrest)]
                exact hlater ((takes_other hname).1 ha)
                  ((takes_other hname').1 hb)

/-- The members of an object that were read are those that set the two
fields. -/
theorem TwoFields.readObject_iff
    (h : TwoFields slot fields names read names' read')
    (hP : Sound P read ∧ Complete P read)
    (hQ : Sound Q read' ∧ Complete Q read')
    (hPform : ∀ {e a}, P e a → ValueForm e)
    (hQform : ∀ {e b}, Q e b → ValueForm e) (acc : σ) (g' : Gap) :
    readFields slot (s.length + 1) true (fields none none) s
        = .ok (acc, g'.chars)
      ↔ ∃ (ms : List Member) (t : List Char) (a : Option α) (b : Option β),
        acc = fields a b ∧ s = t ++ g'.chars
          ∧ Separated '\x7d' true (ms.map fun m => m.chars) t
          ∧ (∀ m ∈ ms, ValueForm m.value)
          ∧ Field names P ms a ∧ Field names' Q ms b := by
  constructor
  · exact h.sound hP.1 hQ.1 hPform hQform
  · rintro ⟨ms, t, a, b, rfl, rfl, ht, hms, ha, hb⟩
    have hlength := ht.length_le
    rw [List.length_map, if_pos rfl] at hlength
    exact h.accepts hP.2 hQ.2 hms (a := none) (b := none) ha hb
      (by rw [List.length_append]; omega) ht g'.chars

end twoFields

end PairingHarness.Json
