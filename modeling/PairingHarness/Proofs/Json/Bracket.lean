/-
What the readers of arrays and objects accept, whatever is inside.

A reader of values is measured against a relation between texts and
values. `Sound P read` says that what it reads is some text that `P`
relates to the value it gives, with blanks before it and the rest behind
it; `Accepts read e v` that it reads `v` off the text `e`, whatever
blanks come before and whatever comes behind, as long as that is no more
of a number. `Complete` is the second for everything that `P` relates.

From a sound reader of items comes a sound reader of arrays, and the
same for completeness; likewise for the members of an object. Both go by
induction over the items, and each step is one `Lead`, the blanks and
the comma, on which the equivalences at the start of the file settle
what the readers do.

The readers themselves are parameters in all of this. The reader of
values calls the readers of brackets with itself on a smaller depth, and
the fields of a record call them with readers of their own; both get
their statements from here by giving what they know of the reader
inside.
-/
import PairingHarness.Proofs.Json.Numeral

namespace PairingHarness.Json

variable {s r t e lead : List Char} {first : Bool}

-- ================================================================= readers

/-- A reader that gives a value and what is left. -/
abbrev Reader (α : Type) :=
  List Char → Except Fault (α × List Char)

/-- What follows a value could be no more of it. -/
def Delimited (r : List Char) : Prop :=
  ∀ c ∈ r.head?, isDigit c = false ∧ (c ≠ 'e' ∧ c ≠ 'E') ∧ c ≠ '.'

/-- Behind such a text no number goes on. -/
theorem Delimited.ends (h : Delimited r) (n : Numeral) : n.Ends r :=
  fun c hc => ⟨(h c hc).1, fun _ => ⟨(h c hc).2.1, fun _ => (h c hc).2.2⟩⟩

/-- What the reader reads is related to what it gives. -/
def Sound {α : Type} (P : List Char → α → Prop) (read : Reader α) : Prop :=
  ∀ {s r : List Char} {v : α}, read s = .ok (v, r) →
    ∃ (g : Gap) (e : List Char), s = g.chars ++ (e ++ r) ∧ P e v

/-- The reader reads the value off the text. -/
def Accepts {α : Type} (read : Reader α) (e : List Char) (v : α) : Prop :=
  ∀ (g : Gap) {r : List Char}, Delimited r →
    read (g.chars ++ (e ++ r)) = .ok (v, r)

/-- The reader reads whatever is related. -/
def Complete {α : Type} (P : List Char → α → Prop) (read : Reader α) :
    Prop :=
  ∀ {e : List Char} {v : α}, P e v → Accepts read e v

-- ================================================== before and after items

/-- Neither a blank nor a closing bracket comes first. -/
def Starts (e : List Char) : Prop :=
  ∃ c e', e = c :: e' ∧ isSpace c = false ∧ c ≠ ']' ∧ c ≠ '\x7d'

/-- Where a value starts, so does whatever it is the beginning of. -/
theorem Starts.append (h : Starts e) (r : List Char) : Starts (e ++ r) := by
  obtain ⟨c, e', rfl, hc⟩ := h
  exact ⟨c, e' ++ r, rfl, hc⟩

/-- A value does not start with a blank. -/
theorem Starts.solid (h : Starts e) : Solid e := by
  obtain ⟨c, e', rfl, hc, -⟩ := h
  exact solid_cons hc

/-- Blanks and then a character that belongs to no number end one. -/
theorem delimited_gap (g : Gap) {c : Char} (r : List Char)
    (hc : isDigit c = false ∧ (c ≠ 'e' ∧ c ≠ 'E') ∧ c ≠ '.') :
    Delimited (g.chars ++ c :: r) := by
  intro d hd
  cases hg : g.chars with
  | nil =>
      rw [hg] at hd
      cases hd
      exact hc
  | cons b bs =>
      rw [hg] at hd
      cases hd
      have hb := g.blank d (by rw [hg]; exact List.mem_cons_self)
      simp only [isSpace, Bool.or_eq_true, decide_eq_true_eq] at hb
      rcases hb with ((rfl | rfl) | rfl) | rfl <;> decide

/-- Behind an item comes a blank, a comma or the closing bracket. -/
theorem Separated.delimited {closer : Char} {items : List (List Char)}
    (hcloser : isDigit closer = false
      ∧ (closer ≠ 'e' ∧ closer ≠ 'E') ∧ closer ≠ '.')
    (h : Separated closer false items t) (r : List Char) :
    Delimited (t ++ r) := by
  cases h with
  | close _ g =>
      rw [List.append_assoc]
      exact delimited_gap g _ hcloser
  | item hlead _ =>
      cases hlead with
      | next g g' =>
          rw [List.append_assoc, List.append_assoc]
          exact delimited_gap g _ (by decide)

/-- There are no more items than characters. -/
theorem Separated.length_le {closer : Char} {items : List (List Char)}
    (h : Separated closer first items t) :
    items.length + (if first then 0 else 1) ≤ t.length := by
  induction h with
  | close first g =>
      rw [List.length_append]
      cases first <;> simp
  | @item first lead e t items hlead _ ih =>
      simp only [List.length_append, List.length_cons, Bool.false_eq_true,
        if_false] at ih ⊢
      cases hlead with
      | first g =>
          simp only [if_true]
          omega
      | next g g' =>
          simp only [List.length_append, List.length_cons,
            Bool.false_eq_true, if_false]
          omega

/-- More blanks before an item. -/
theorem Lead.gap (h : Lead first lead) (g : Gap) :
    Lead first (lead ++ g.chars) := by
  cases h with
  | first g' => exact .first (g'.append g)
  | next g' g'' =>
      rw [List.append_assoc]
      exact .next g' (g''.append g)

-- ============================================================= the next one

/-- No item follows exactly where blanks and the closing bracket do. -/
theorem nextItem_eq_false_iff :
    nextItem first s = .ok (false, r) ↔ ∃ g : Gap, s = g.chars ++ ']' :: r := by
  constructor
  · intro h
    obtain ⟨g, hg⟩ := exists_gap s
    unfold nextItem at h
    cases hs : skipSpace s with
    | nil =>
        rw [hs] at h
        cases h
    | cons c rest =>
        rw [hs] at h hg
        simp only [] at h
        by_cases hc : c = ']'
        · subst hc
          rw [if_pos rfl] at h
          cases h
          exact ⟨g, hg⟩
        rw [if_neg hc] at h
        split at h
        · cases h
        split at h
        · split at h
          · cases h
          · split at h <;> cases h
        · cases h
  · rintro ⟨g, rfl⟩
    unfold nextItem
    rw [skipSpace_gap g (solid_cons rfl)]
    rfl

/-- Where one follows, what is in front of it is a lead: blanks, with a
comma in them unless it is the first. -/
theorem nextItem_eq_true (h : nextItem first s = .ok (true, r)) :
    ∃ lead, Lead first lead ∧ s = lead ++ r := by
  obtain ⟨g, hg⟩ := exists_gap s
  unfold nextItem at h
  cases hs : skipSpace s with
  | nil =>
      rw [hs] at h
      cases h
  | cons c rest =>
      rw [hs] at h hg
      simp only [] at h
      split at h
      · cases h
      -- the first item stands right there; a later one has a comma before it,
      -- with blanks on either side
      cases first with
      | true =>
          cases h
          exact ⟨_, .first g, hg⟩
      | false =>
          simp only [Bool.false_eq_true, if_false] at h
          split at h
          case isFalse => cases h
          case isTrue hc =>
          obtain ⟨g', hg'⟩ := exists_gap rest
          cases hrest : skipSpace rest with
          | nil =>
              rw [hrest] at h
              cases h
          | cons d rest' =>
              rw [hrest] at h hg'
              simp only [] at h
              split at h
              · cases h
              · cases h
                refine ⟨_, .next g g', ?_⟩
                rw [hg, hc, hg', List.append_assoc]
                rfl

/-- And behind a lead an item follows, if one starts there. -/
theorem nextItem_lead (hlead : Lead first lead) (hr : Starts r) :
    nextItem first (lead ++ r) = .ok (true, r) := by
  obtain ⟨c, r, rfl, hspace, hclose, -⟩ := hr
  cases hlead with
  | first g =>
      unfold nextItem
      rw [skipSpace_gap g (solid_cons hspace)]
      simp only [if_neg hclose, if_true]
  | next g g' =>
      rw [List.append_assoc]
      unfold nextItem
      rw [List.cons_append, skipSpace_gap g (solid_cons rfl)]
      simp only [Char.reduceEq, Bool.false_eq_true, reduceIte,
        skipSpace_gap g' (solid_cons hspace), if_neg hclose]

/-- The name of a member is read up to its closing quote. -/
theorem name_eq_some_iff {name : String} :
    nextName.name s = .ok (some name, r)
      ↔ ∃ spelling, Spells spelling name.toList ∧ s = spelling ++ '"' :: r := by
  unfold nextName.name
  constructor
  · intro h
    obtain ⟨⟨cs, rest⟩, hread, hname⟩ := map_eq_ok h
    cases hname
    rw [String.toList_ofList]
    exact readText_eq_ok_iff.1 hread
  · intro h
    rw [readText_eq_ok_iff.2 h]
    show Except.ok (some (String.ofList name.toList), r) = _
    rw [String.ofList_toList]

/-- Once its quote is open a name is there or the text is refused. -/
theorem name_ne_none : nextName.name s ≠ .ok (none, r) := by
  intro h
  obtain ⟨x, -, hx⟩ := map_eq_ok h
  cases hx

/-- No member follows exactly where blanks and the closing brace do. -/
theorem nextName_eq_none_iff :
    nextName first s = .ok (none, r)
      ↔ ∃ g : Gap, s = g.chars ++ '\x7d' :: r := by
  constructor
  · intro h
    obtain ⟨g, hg⟩ := exists_gap s
    unfold nextName at h
    cases hs : skipSpace s with
    | nil =>
        rw [hs] at h
        cases h
    | cons c rest =>
        rw [hs] at h hg
        simp only [] at h
        by_cases hc : c = '\x7d'
        · subst hc
          rw [if_pos rfl] at h
          cases h
          exact ⟨g, hg⟩
        rw [if_neg hc] at h
        split at h
        · split at h
          · exact absurd h name_ne_none
          · cases h
        split at h
        · split at h
          · cases h
          · split at h
            · exact absurd h name_ne_none
            · split at h <;> cases h
        · cases h
  · rintro ⟨g, rfl⟩
    unfold nextName
    rw [skipSpace_gap g (solid_cons rfl)]
    rfl

/-- A member follows exactly where a lead and a quoted name do, and the name
is what the quoted text stands for. -/
theorem nextName_eq_some_iff {name : String} :
    nextName first s = .ok (some name, r)
      ↔ ∃ lead spelling, Lead first lead ∧ Spells spelling name.toList
        ∧ s = lead ++ (quote spelling ++ r) := by
  constructor
  · intro h
    obtain ⟨g, hg⟩ := exists_gap s
    unfold nextName at h
    cases hs : skipSpace s with
    | nil =>
        rw [hs] at h
        cases h
    | cons c rest =>
        rw [hs] at h hg
        simp only [] at h
        split at h
        · cases h
        -- as for items, but a name must follow, also after the comma
        cases first with
        | true =>
            simp only [if_true] at h
            split at h
            case isFalse => cases h
            case isTrue hc =>
            obtain ⟨spelling, hspells, rfl⟩ := name_eq_some_iff.1 h
            refine ⟨_, spelling, .first g, hspells, ?_⟩
            rw [hg, hc, quote_append]
        | false =>
            simp only [Bool.false_eq_true, if_false] at h
            split at h
            case isFalse => cases h
            case isTrue hcomma =>
            obtain ⟨g', hg'⟩ := exists_gap rest
            cases hrest : skipSpace rest with
            | nil =>
                rw [hrest] at h
                cases h
            | cons d rest' =>
                rw [hrest] at h hg'
                simp only [] at h
                split at h
                case isFalse => split at h <;> cases h
                case isTrue hd =>
                obtain ⟨spelling, hspells, rfl⟩ := name_eq_some_iff.1 h
                refine ⟨_, spelling, .next g g', hspells, ?_⟩
                rw [hg, hcomma, hg', hd, quote_append, List.append_assoc]
                rfl
  · rintro ⟨lead, spelling, hlead, hspells, rfl⟩
    have hname : nextName.name (spelling ++ '"' :: r) = .ok (some name, r) :=
      name_eq_some_iff.2 ⟨spelling, hspells, rfl⟩
    rw [quote_append]
    unfold nextName
    cases hlead with
    | first g =>
        rw [skipSpace_gap g (solid_cons rfl)]
        exact hname
    | next g g' =>
        rw [List.append_assoc, List.cons_append,
          skipSpace_gap g (solid_cons rfl)]
        simp only [Char.reduceEq, Bool.false_eq_true, reduceIte]
        rw [skipSpace_gap g' (solid_cons rfl)]
        exact hname

/-- A name is set off from its value by a colon with blanks in front of it.
-/
theorem readColon_eq_ok_iff :
    readColon s = .ok r ↔ ∃ g : Gap, s = g.chars ++ ':' :: r := by
  constructor
  · intro h
    obtain ⟨g, hg⟩ := exists_gap s
    unfold readColon at h
    cases hs : skipSpace s with
    | nil =>
        rw [hs] at h
        cases h
    | cons c rest =>
        rw [hs] at h hg
        simp only [] at h
        split at h
        case isFalse => cases h
        case isTrue hc =>
          cases h
          exact ⟨g, hc ▸ hg⟩
  · rintro ⟨g, rfl⟩
    unfold readColon
    rw [skipSpace_gap g (solid_cons rfl)]
    rfl

-- =================================================================== arrays

section items

variable {α : Type} {P : List Char → α → Prop} {item : Reader α}

/-- What is read as the next item is an item. -/
theorem item_of_read (hitem : Sound P item) {s₁ : List Char} {v : α}
    (hnext : nextItem first s = .ok (true, s₁))
    (hread : item s₁ = .ok (v, r)) :
    ∃ lead e, Lead first lead ∧ P e v ∧ s = lead ++ (e ++ r) := by
  obtain ⟨lead, hlead, rfl⟩ := nextItem_eq_true hnext
  obtain ⟨g, e, rfl, he⟩ := hitem hread
  exact ⟨_, e, hlead.gap g, he, (List.append_assoc _ _ _).symm⟩

/-- An item that the reader accepts is read as the next one. -/
theorem read_of_item {v : α} (hitem : Accepts item e v) (he : Starts e)
    (hlead : Lead first lead) (hr : Delimited r) :
    ∃ s₁, nextItem first (lead ++ (e ++ r)) = .ok (true, s₁)
      ∧ item s₁ = .ok (v, r) :=
  ⟨e ++ r, nextItem_lead hlead (he.append r), hitem Gap.none hr⟩

/-- The closing bracket of an array is read as its end. -/
theorem nextItem_close (first : Bool) (g : Gap) (r : List Char) :
    nextItem first (g.chars ++ [']'] ++ r) = .ok (false, r) :=
  nextItem_eq_false_iff.2 ⟨g, by rw [List.append_assoc]; rfl⟩

/-- An array whose items are read by a sound reader. -/
theorem readItems_sound (hitem : Sound P item) {fuel : Nat} {vs : List α}
    (h : readItems item fuel first s = .ok (vs, r)) :
    ∃ (items : List (List Char × α)) (t : List Char), s = t ++ r
      ∧ Separated ']' first (items.map Prod.fst) t
      ∧ (∀ i ∈ items, P i.1 i.2) ∧ items.map Prod.snd = vs := by
  induction fuel generalizing first s vs with
  | zero => cases h
  | succ fuel ih =>
      obtain ⟨⟨more, s₁⟩, hnext, h₁⟩ := bind_eq_ok h
      cases more with
      | false =>
          cases h₁
          obtain ⟨g, rfl⟩ := nextItem_eq_false_iff.1 hnext
          refine ⟨[], g.chars ++ [']'], ?_, .close first g,
            (fun _ hi => nomatch hi), rfl⟩
          rw [List.append_assoc]
          rfl
      | true =>
          obtain ⟨⟨v, s₂⟩, hv, h₂⟩ := bind_eq_ok h₁
          obtain ⟨⟨later, s₃⟩, hlater, h₃⟩ := bind_eq_ok h₂
          cases h₃
          obtain ⟨items, t, rfl, ht, hitems, rfl⟩ := ih hlater
          obtain ⟨lead, e, hlead, he, rfl⟩ := item_of_read hitem hnext hv
          refine ⟨(e, v) :: items, lead ++ (e ++ t), ?_, .item hlead ht,
            List.forall_mem_cons.2 ⟨he, hitems⟩, rfl⟩
          simp only [List.append_assoc]

/-- An array whose items the reader accepts. -/
theorem readItems_accepts {items : List (List Char × α)}
    (hitems : ∀ i ∈ items, Accepts item i.1 i.2)
    (hstarts : ∀ i ∈ items, Starts i.1) {fuel : Nat}
    (hfuel : items.length < fuel)
    (h : Separated ']' first (items.map Prod.fst) t) (r : List Char) :
    readItems item fuel first (t ++ r) = .ok (items.map Prod.snd, r) := by
  -- on the items; there is fuel for each of them and for the closing bracket
  induction items generalizing first t fuel with
  | nil =>
      cases h with
      | close _ g =>
          obtain ⟨fuel, rfl⟩ := Nat.exists_eq_add_of_lt hfuel
          rw [show ([] : List (List Char × α)).length + fuel + 1
            = fuel + 1 by simp]
          unfold readItems
          rw [nextItem_close]
          rfl
  | cons i items ih =>
      cases h with
      | @item _ lead e t _ hlead ht =>
          cases fuel with
          | zero => exact absurd hfuel (Nat.not_lt_zero _)
          | succ fuel =>
              have hrest := Separated.delimited (by decide) ht r
              obtain ⟨s₁, hnext, hi⟩ := read_of_item
                (hitems i List.mem_cons_self) (hstarts i List.mem_cons_self)
                hlead hrest
              have hlater := ih (fun j hj => hitems j (List.mem_cons_of_mem _ hj))
                (fun j hj => hstarts j (List.mem_cons_of_mem _ hj))
                (Nat.lt_of_succ_lt_succ hfuel) ht
              unfold readItems
              rw [List.append_assoc, List.append_assoc, bind_of_ok hnext]
              show (item s₁ >>= _) = _
              rw [bind_of_ok hi]
              show (readItems item fuel false (t ++ r) >>= _) = _
              rw [bind_of_ok hlater]
              rfl

end items

-- ================================================================== objects

section members

variable {α : Type} {P : List Char → α → Prop} {value : Reader α}

/-- The parts of a member one after another, as the readers meet them. -/
theorem MemberText.chars_append (m : MemberText) (r : List Char) :
    m.chars ++ r = quote m.spelling
      ++ (m.before.chars ++ ':' :: (m.after.chars ++ (m.value ++ r))) := by
  unfold MemberText.chars
  simp only [List.append_assoc, List.cons_append]

/-- A name and a colon that were read begin a member with the value
behind them. -/
theorem member_of_head {name : String} {s₁ s₂ : List Char} {g : Gap}
    (hname : nextName first s = .ok (some name, s₁))
    (hcolon : readColon s₁ = .ok s₂) (hs : s₂ = g.chars ++ (e ++ r)) :
    ∃ (lead : List Char) (m : Member), Lead first lead ∧ m.name = name
      ∧ m.value = e ∧ s = lead ++ (m.chars ++ r) := by
  obtain ⟨lead, spelling, hlead, hspells, rfl⟩ := nextName_eq_some_iff.1 hname
  obtain ⟨before, rfl⟩ := readColon_eq_ok_iff.1 hcolon
  refine ⟨lead, ⟨⟨spelling, before, g, e⟩, name, hspells⟩, hlead, rfl, rfl, ?_⟩
  rw [MemberText.chars_append, hs]

/-- The name and the colon of a member are read up to the blanks before
its value. -/
theorem head_of_member (hlead : Lead first lead) (m : Member)
    (r : List Char) :
    ∃ s₁, nextName first (lead ++ (m.chars ++ r)) = .ok (some m.name, s₁)
      ∧ readColon s₁ = .ok (m.after.chars ++ (m.value ++ r)) := by
  rw [m.chars_append]
  exact ⟨_, nextName_eq_some_iff.2 ⟨lead, m.spelling, hlead, m.spelled, rfl⟩,
    readColon_eq_ok_iff.2 ⟨m.before, rfl⟩⟩

/-- The closing brace of an object is read as the end of its names. -/
theorem nextName_close (first : Bool) (g : Gap) (r : List Char) :
    nextName first (g.chars ++ ['\x7d'] ++ r) = .ok (none, r) :=
  nextName_eq_none_iff.2 ⟨g, by rw [List.append_assoc]; rfl⟩

/-- An object whose values are read by a sound reader. -/
theorem readMembers_sound (hvalue : Sound P value) {fuel : Nat}
    {vs : List (String × α)}
    (h : readMembers value fuel first s = .ok (vs, r)) :
    ∃ (ms : List (Member × α)) (t : List Char), s = t ++ r
      ∧ Separated '\x7d' first (ms.map fun m => m.1.chars) t
      ∧ (∀ m ∈ ms, P m.1.value m.2)
      ∧ gather (ms.map fun m => (m.1.name, m.2)) = vs := by
  -- on the fuel: each member that was read took one
  induction fuel generalizing first s vs with
  | zero => cases h
  | succ fuel ih =>
      obtain ⟨⟨name, s₁⟩, hnext, h₁⟩ := bind_eq_ok h
      cases name with
      | none =>
          cases h₁
          obtain ⟨g, rfl⟩ := nextName_eq_none_iff.1 hnext
          refine ⟨[], g.chars ++ ['\x7d'], ?_, .close first g,
            (fun _ hi => nomatch hi), rfl⟩
          rw [List.append_assoc]
          rfl
      | some name =>
          obtain ⟨s₂, hcolon, h₂⟩ := bind_eq_ok h₁
          obtain ⟨⟨v, s₃⟩, hv, h₃⟩ := bind_eq_ok h₂
          obtain ⟨g, e, hs, he⟩ := hvalue hv
          obtain ⟨⟨later, s₄⟩, hlater, h₄⟩ := bind_eq_ok h₃
          cases h₄
          obtain ⟨ms, t, rfl, ht, hms, rfl⟩ := ih hlater
          obtain ⟨lead, m, hlead, rfl, rfl, rfl⟩ :=
            member_of_head hnext hcolon hs
          refine ⟨(m, v) :: ms, lead ++ (m.chars ++ t), ?_, .item hlead ht,
            List.forall_mem_cons.2 ⟨he, hms⟩, rfl⟩
          simp only [List.append_assoc]

/-- An object whose values the reader accepts. -/
theorem readMembers_accepts {ms : List (Member × α)}
    (hms : ∀ m ∈ ms, Accepts value m.1.value m.2) {fuel : Nat}
    (hfuel : ms.length < fuel)
    (h : Separated '\x7d' first (ms.map fun m => m.1.chars) t)
    (r : List Char) :
    readMembers value fuel first (t ++ r)
      = .ok (gather (ms.map fun m => (m.1.name, m.2)), r) := by
  -- on the members; there is fuel for each of them and for the closing brace
  induction ms generalizing first t fuel with
  | nil =>
      cases h with
      | close _ g =>
          obtain ⟨fuel, rfl⟩ := Nat.exists_eq_add_of_lt hfuel
          rw [show ([] : List (Member × α)).length + fuel + 1 = fuel + 1
            by simp]
          unfold readMembers
          rw [nextName_close]
          rfl
  | cons m ms ih =>
      cases h with
      | @item _ lead e t _ hlead ht =>
          cases fuel with
          | zero => exact absurd hfuel (Nat.not_lt_zero _)
          | succ fuel =>
              have hrest := Separated.delimited (by decide) ht r
              have hm := hms m List.mem_cons_self m.1.after hrest
              obtain ⟨s₁, hnext, hcolon⟩ := head_of_member hlead m.1 (t ++ r)
              have hlater := ih (fun j hj => hms j (List.mem_cons_of_mem _ hj))
                (Nat.lt_of_succ_lt_succ hfuel) ht
              unfold readMembers
              rw [List.append_assoc, List.append_assoc, bind_of_ok hnext]
              show (readColon s₁ >>= _) = _
              rw [bind_of_ok hcolon]
              show (value _ >>= _) = _
              rw [bind_of_ok hm]
              show (readMembers value fuel false (t ++ r) >>= _) = _
              rw [bind_of_ok hlater]
              rfl

end members

end PairingHarness.Json
