/-
What the scan over an unwanted value accepts.

The scan holds the open brackets in a list, so there is no recursion to
follow. What is still to come of the text at a point of the scan is told
by `Ahead`: a value first, if one is due, and then for each open bracket
the rest of its items up to its closer. One step of the scan keeps this
(`Ahead.head`, `Ahead.leave`), and so all of a scan does, which makes
what was passed over a value (`skipValue_sound`).

The converse goes by induction on the form of the value. The scan passes
it in no more steps than it has characters (`Passed`), whatever brackets
are open and whatever comes behind, and the fuel that it starts with is
as much as that.

The scan takes any value of any depth, which the reader of values does
not. A member that no field wants may therefore be nested deeper than
the reader would go, and it is still passed over; the bound on the depth
is for what is read.
-/
import PairingHarness.Proofs.Json.Value

namespace PairingHarness.Json

variable {s s' r t v e : List Char} {b : Bracket} {opened : List Bracket}
  {place : Place}

-- ======================================================= items of brackets

/-- The character that opens it. -/
def Bracket.opener : Bracket → Char
  | .list => '['
  | .object => '\x7b'

/-- An item with the value `v` in it. -/
def Bracket.Holds : Bracket → (item v : List Char) → Prop
  | .list, e, v => e = v
  | .object, e, v =>
    ∃ m : MemberText, TextForm m.spelling ∧ m.value = v ∧ m.chars = e

/-- An item of a bracket starts as a value or as a name does. -/
theorem Bracket.Holds.starts (h : b.Holds e v) (hv : ValueForm v) :
    Starts e := by
  cases b with
  | list =>
      cases h
      exact hv.starts
  | object =>
      obtain ⟨m, -, -, rfl⟩ := h
      exact ⟨'"', _, rfl, by decide⟩

/-- Items of one form, taken apart. -/
theorem exists_map_eq {α β : Type} {f : α → β} {p : α → Prop}
    {bs : List β} (h : ∀ b ∈ bs, ∃ a, p a ∧ f a = b) :
    ∃ as : List α, as.map f = bs ∧ ∀ a ∈ as, p a := by
  induction bs with
  | nil => exact ⟨[], rfl, fun _ ha => nomatch ha⟩
  | cons b bs ih =>
      obtain ⟨a, ha, rfl⟩ := h b List.mem_cons_self
      obtain ⟨as, rfl, has⟩ := ih fun b hb => h b (List.mem_cons_of_mem _ hb)
      exact ⟨a :: as, rfl, List.forall_mem_cons.2 ⟨ha, has⟩⟩

/-- Items that hold values make a value between brackets. -/
theorem ValueForm.bracket {es : List (List Char)}
    (h : Separated b.closer true es t)
    (hes : ∀ e ∈ es, ∃ v, ValueForm v ∧ b.Holds e v) :
    ValueForm (b.opener :: t) := by
  cases b with
  | list =>
      refine .array h fun e he => ?_
      obtain ⟨v, hv, rfl⟩ := hes e he
      exact hv
  | object =>
      obtain ⟨ms, rfl, hms⟩ := exists_map_eq (f := MemberText.chars)
        (p := fun m => TextForm m.spelling ∧ ValueForm m.value)
        fun e he => by
          obtain ⟨v, hv, m, hm, rfl, rfl⟩ := hes e he
          exact ⟨m, ⟨hm, hv⟩, rfl⟩
      exact .object h (fun m hm => (hms m hm).1) fun m hm => (hms m hm).2

/-- What is passed over before a value makes an item with it. -/
theorem holds_of_skipName {g : Gap}
    (h : skipName b s = .ok (g.chars ++ (v ++ r))) :
    ∃ (g' : Gap) (e : List Char), s = g'.chars ++ (e ++ r) ∧ b.Holds e v := by
  cases b with
  | list =>
      cases h
      exact ⟨g, v, rfl, rfl⟩
  | object =>
      obtain ⟨g', hg'⟩ := exists_gap s
      unfold skipName at h
      cases hs : skipSpace s with
      | nil =>
          rw [hs] at h
          cases h
      | cons c rest =>
          rw [hs] at h hg'
          simp only [] at h
          split at h
          case isFalse => cases h
          case isTrue hc =>
          obtain ⟨s₁, hskip, h₁⟩ := bind_eq_ok h
          obtain ⟨spelling, hform, rfl⟩ := skipText_eq_ok_iff.1 hskip
          obtain ⟨before, rfl⟩ := readColon_eq_ok_iff.1 h₁
          refine ⟨g', _, ?_, ⟨spelling, before, g, v⟩, hform, rfl, rfl⟩
          rw [MemberText.chars_append, quote_append, hg', hc]

/-- Before the value of an item nothing but the rest of the item is
passed over. -/
theorem skipName_of_holds (h : b.Holds e v) (g : Gap) (r : List Char) :
    ∃ g' : Gap, skipName b (g.chars ++ (e ++ r)) = .ok (g'.chars ++ (v ++ r))
      ∧ g'.chars.length + v.length ≤ g.chars.length + e.length := by
  cases b with
  | list =>
      cases h
      exact ⟨g, rfl, Nat.le_refl _⟩
  | object =>
      obtain ⟨m, hform, rfl, rfl⟩ := h
      refine ⟨m.after, ?_, ?_⟩
      · rw [m.chars_append, quote_append]
        unfold skipName
        rw [skipSpace_gap g (solid_cons rfl)]
        show (skipText false 0 _ >>= readColon) = _
        rw [bind_of_ok (skipText_eq_ok_iff.2 ⟨_, hform, rfl⟩)]
        exact readColon_eq_ok_iff.2 ⟨m.before, rfl⟩
      · unfold MemberText.chars
        simp only [List.length_append, List.length_cons]
        omega

-- ================================================================ soundness

/-- The rest of the items of each open bracket, up to its closer. -/
inductive Closes : List Bracket → List Char → Prop where
  | nil : Closes [] []
  | cons {b : Bracket} {opened : List Bracket} {es : List (List Char)}
      {t t' : List Char} (h : Separated b.closer false es t)
      (hes : ∀ e ∈ es, ∃ v, ValueForm v ∧ b.Holds e v) :
      Closes opened t' → Closes (b :: opened) (t ++ t')

/-- What is still to come where a scan stands. -/
def Ahead : Place → List Bracket → List Char → Prop
  | .done, opened, t => Closes opened t
  | .value, opened, t =>
    ∃ (g : Gap) (v t' : List Char), t = g.chars ++ (v ++ t')
      ∧ ValueForm v ∧ Closes opened t'

/-- A bracket that opens owes its items and its closer before what was owed
already. -/
theorem Ahead.enter {place : Place} {opened' : List Bracket}
    (h : enter b opened s = .ok (place, opened', s'))
    (ht : Ahead place opened' t) (hs : s' = t ++ r) :
    ∃ t₁ t₂, s = t₁ ++ (t₂ ++ r) ∧ ValueForm (b.opener :: t₁)
      ∧ Closes opened t₂ := by
  obtain ⟨g, hg⟩ := exists_gap s
  unfold Json.enter at h
  cases hspace : skipSpace s with
  | nil =>
      rw [hspace] at h
      cases h
  | cons c rest =>
  rw [hspace] at h hg
  simp only [] at h
  -- a bracket closes at once or holds a first item, which needs no comma
  by_cases hc : c = b.closer
  · rw [if_pos hc] at h
    cases h
    refine ⟨g.chars ++ [b.closer], t, ?_,
      .bracket (.close true g) (fun _ he => nomatch he), ht⟩
    rw [hg, hc, hs, List.append_assoc]
    rfl
  · rw [if_neg hc] at h
    obtain ⟨_, hname, heq⟩ := map_eq_ok h
    cases heq
    obtain ⟨g₁, v, t', rfl, hv, hcloses⟩ := ht
    cases hcloses with
    | @cons _ _ es t₁ t₂ hsep hes hopened =>
        rw [hs, List.append_assoc, List.append_assoc] at hname
        obtain ⟨g₂, e, hrest, he⟩ := holds_of_skipName hname
        refine ⟨_, t₂, ?_, .bracket (.item (.first (g.append g₂)) hsep)
          (List.forall_mem_cons.2 ⟨⟨v, hv, he⟩, hes⟩), hopened⟩
        rw [hg, hrest]
        simp only [Gap.append, List.append_assoc]

/-- Behind an item comes the next one, or the closer, and with it the
bracket around. -/
theorem Ahead.leave {place : Place} {opened' : List Bracket}
    (h : leave b opened s = .ok (place, opened', s'))
    (ht : Ahead place opened' t) (hs : s' = t ++ r) :
    ∃ t', s = t' ++ r ∧ Closes (b :: opened) t' := by
  obtain ⟨g, hg⟩ := exists_gap s
  unfold Json.leave at h
  cases hspace : skipSpace s with
  | nil =>
      rw [hspace] at h
      cases h
  | cons c rest =>
  rw [hspace] at h hg
  simp only [] at h
  -- after an item comes a comma, and with it the next item, or the bracket
  -- that closes
  by_cases hcomma : c = ','
  · rw [if_pos hcomma] at h
    obtain ⟨_, hname, heq⟩ := map_eq_ok h
    cases heq
    obtain ⟨g₁, v, t', rfl, hv, hcloses⟩ := ht
    cases hcloses with
    | @cons _ _ es t₁ t₂ hsep hes hopened =>
        rw [hs, List.append_assoc, List.append_assoc] at hname
        obtain ⟨g₂, e, hrest, he⟩ := holds_of_skipName hname
        refine ⟨_, ?_, .cons (.item (.next g g₂) hsep)
          (List.forall_mem_cons.2 ⟨⟨v, hv, he⟩, hes⟩) hopened⟩
        rw [hg, hcomma, hrest]
        simp only [List.append_assoc, List.cons_append]
  rw [if_neg hcomma] at h
  by_cases hc : c = b.closer
  · rw [if_pos hc] at h
    cases h
    refine ⟨g.chars ++ [b.closer] ++ t, ?_,
      .cons (.close false g) (fun _ he => nomatch he) ht⟩
    rw [hg, hc, hs, List.append_assoc, List.append_assoc]
    rfl
  · rw [if_neg hc] at h
    cases h

/-- One step at the place of a value, whichever value starts there. -/
theorem Ahead.head {place : Place} {opened' : List Bracket}
    (h : skipHead opened s = .ok (place, opened', s'))
    (ht : Ahead place opened' t) (hs : s' = t ++ r) :
    ∃ t', s = t' ++ r ∧ Ahead .value opened t' := by
  obtain ⟨g, hg⟩ := exists_gap s
  -- blanks aside, a value stands here and what is opened closes after it
  suffices ∃ v t', skipSpace s = v ++ (t' ++ r) ∧ ValueForm v
      ∧ Closes opened t' by
    obtain ⟨v, t', h, hv, hclosed⟩ := this
    refine ⟨g.chars ++ (v ++ t'), ?_, g, v, t', rfl, hv, hclosed⟩
    rw [hg, h, List.append_assoc, List.append_assoc]
  unfold skipHead at h
  cases hspace : skipSpace s with
  | nil =>
      rw [hspace] at h
      cases h
  | cons c rest =>
  rw [hspace] at h
  simp only [] at h
  -- by the first character, in the order in which the reader asks
  by_cases harray : c = '['
  · rw [if_pos harray] at h
    obtain ⟨t₁, t₂, rfl, hv, hclosed⟩ := Ahead.enter h ht hs
    exact ⟨_, t₂, by rw [harray]; rfl, hv, hclosed⟩
  rw [if_neg harray] at h
  by_cases hobject : c = '\x7b'
  · rw [if_pos hobject] at h
    obtain ⟨t₁, t₂, rfl, hv, hclosed⟩ := Ahead.enter h ht hs
    exact ⟨_, t₂, by rw [hobject]; rfl, hv, hclosed⟩
  rw [if_neg hobject] at h
  obtain ⟨_, hscalar, heq⟩ := map_eq_ok h
  cases heq
  -- no bracket opens, so the value ends where the scan goes on
  suffices ∃ v, c :: rest = v ++ s' ∧ ValueForm v by
    obtain ⟨v, h, hv⟩ := this
    exact ⟨v, t, by rw [h, hs], hv, ht⟩
  by_cases hnull : c = 'n'
  · rw [if_pos hnull] at hscalar
    rw [hnull, readWord_eq_ok_iff.1 hscalar]
    exact ⟨_, rfl, .null⟩
  rw [if_neg hnull] at hscalar
  by_cases hyes : c = 't'
  · rw [if_pos hyes] at hscalar
    rw [hyes, readWord_eq_ok_iff.1 hscalar]
    exact ⟨_, rfl, .yes⟩
  rw [if_neg hyes] at hscalar
  by_cases hno : c = 'f'
  · rw [if_pos hno] at hscalar
    rw [hno, readWord_eq_ok_iff.1 hscalar]
    exact ⟨_, rfl, .no⟩
  rw [if_neg hno] at hscalar
  by_cases hminus : c = '-'
  · rw [if_pos hminus] at hscalar
    obtain ⟨n, hn⟩ := signed_of_skipNumber true hscalar
    exact ⟨n.chars, hminus ▸ hn, .number n⟩
  rw [if_neg hminus] at hscalar
  by_cases hdigit : isDigit c = true
  · rw [if_pos hdigit] at hscalar
    obtain ⟨n, hn⟩ := signed_of_skipNumber false hscalar
    exact ⟨n.chars, hn, .number n⟩
  rw [if_neg hdigit] at hscalar
  by_cases htext : c = '"'
  · rw [if_pos htext] at hscalar
    obtain ⟨source, hform, hrest⟩ := skipText_eq_ok_iff.1 hscalar
    exact ⟨quote source, by rw [htext, hrest, quote_append], .text hform⟩
  · rw [if_neg htext] at hscalar
    cases hscalar

/-- What a scan passes over is what was still to come. -/
theorem skipIn_sound {fuel : Nat}
    (h : skipIn fuel place opened s = .ok r) :
    ∃ t, s = t ++ r ∧ Ahead place opened t := by
  -- on the fuel, one step of the scan each; what is ahead after a step is
  -- known from the rest of the scan
  induction fuel generalizing place opened s with
  | zero =>
      cases place with
      | value => cases h
      | done =>
          cases opened with
          | nil =>
              cases h
              exact ⟨[], rfl, .nil⟩
          | cons b opened => cases h
  | succ fuel ih =>
      cases place with
      | value =>
          unfold skipIn at h
          split at h
          case h_1 hhead =>
            obtain ⟨t, hs, ht⟩ := ih h
            exact Ahead.head hhead ht hs
          case h_2 => cases h
      | done =>
          cases opened with
          | nil =>
              cases h
              exact ⟨[], rfl, .nil⟩
          | cons b opened =>
              unfold skipIn at h
              split at h
              case h_1 hleave =>
                obtain ⟨t, hs, ht⟩ := ih h
                exact Ahead.leave hleave ht hs
              case h_2 => cases h

/-- What is passed over is a value. -/
theorem skipValue_sound (h : skipValue s = .ok r) :
    ∃ (g : Gap) (v : List Char), s = g.chars ++ (v ++ r) ∧ ValueForm v := by
  obtain ⟨t, rfl, g, v, t', rfl, hv, hclosed⟩ := skipIn_sound h
  cases hclosed
  exact ⟨g, v, by rw [List.append_nil, List.append_assoc], hv⟩

-- ============================================================ completeness

/-- The scan gets over the text in no more steps than characters. -/
def Passed (v : List Char) : Prop :=
  ∀ (g : Gap) (opened : List Bracket) {r : List Char}, Delimited r →
    ∃ n ≤ g.chars.length + v.length, ∀ fuel,
      skipIn (fuel + n) .value opened (g.chars ++ (v ++ r))
        = skipIn fuel .done opened r

/-- A scan at the place of a value makes one step and goes on. -/
theorem skipIn_of_head {opened' : List Bracket}
    (h : skipHead opened s = .ok (place, opened', s')) (fuel : Nat) :
    skipIn (fuel + 1) .value opened s = skipIn fuel place opened' s' := by
  rw [skipIn, h]

/-- A scan behind a value makes one step and goes on. -/
theorem skipIn_of_leave {opened' : List Bracket}
    (h : leave b opened s = .ok (place, opened', s')) (fuel : Nat) :
    skipIn (fuel + 1) .done (b :: opened) s = skipIn fuel place opened' s' := by
  rw [skipIn, h]

/-- A value that is passed over in one step. -/
theorem passed_scalar (hv : Starts v)
    (h : ∀ (g : Gap) (opened : List Bracket) {r : List Char}, Delimited r →
      skipHead opened (g.chars ++ (v ++ r)) = .ok (.done, opened, r)) :
    Passed v := by
  intro g opened r hr
  obtain ⟨c, v', rfl, -⟩ := hv
  refine ⟨1, ?_, skipIn_of_head (h g opened hr)⟩
  rw [List.length_cons]
  omega

/-- A bracket closes. -/
theorem leave_close (g : Gap) (r : List Char) :
    leave b opened (g.chars ++ [b.closer] ++ r) = .ok (.done, opened, r) := by
  have hsolid : Solid ([b.closer] ++ r) := by
    cases b <;> exact solid_cons rfl
  unfold leave
  rw [List.append_assoc, skipSpace_gap g hsolid]
  cases b <;> rfl

/-- A comma asks for one more item of the same bracket. -/
theorem leave_comma (g : Gap) (s : List Char) :
    leave b opened (g.chars ++ ',' :: s)
      = (skipName b s).map fun r => (.value, b :: opened, r) := by
  unfold leave
  rw [skipSpace_gap g (solid_cons rfl)]
  rfl

/-- The scan gets over what follows an item, up to the closer. -/
theorem passed_items {es : List (List Char)}
    (h : Separated b.closer false es t)
    (hes : ∀ e ∈ es, ∃ v, Passed v ∧ b.Holds e v) (opened : List Bracket)
    (r : List Char) :
    ∃ n ≤ t.length, ∀ fuel, skipIn (fuel + n) .done (b :: opened) (t ++ r)
      = skipIn fuel .done opened r := by
  -- on the items that follow; each costs the steps of its value and one for
  -- the comma
  induction es generalizing t with
  | nil =>
      cases h with
      | close _ g =>
          refine ⟨1, ?_, skipIn_of_leave (leave_close g r)⟩
          rw [List.length_append, List.length_singleton]
          omega
  | cons e es ih =>
      cases h with
      | @item _ lead _ t _ hlead ht =>
          cases hlead with
          | next g g' =>
              obtain ⟨v, hv, he⟩ := hes e List.mem_cons_self
              obtain ⟨g'', hname, hlength⟩ := skipName_of_holds he g' (t ++ r)
              have hr : Delimited (t ++ r) :=
                Separated.delimited (by cases b <;> decide) ht r
              obtain ⟨n, hn, hpass⟩ := hv g'' (b :: opened) hr
              obtain ⟨k, hk, hrest⟩ :=
                ih ht fun e he => hes e (List.mem_cons_of_mem _ he)
              have hleave : leave b opened
                  (g.chars ++ ',' :: (g'.chars ++ (e ++ (t ++ r))))
                  = .ok (.value, b :: opened,
                    g''.chars ++ (v ++ (t ++ r))) := by
                rw [leave_comma, hname]
                rfl
              refine ⟨k + n + 1, ?_, fun fuel => ?_⟩
              · simp only [List.length_append, List.length_cons]
                omega
              · have hs : g.chars ++ ',' :: g'.chars ++ (e ++ t) ++ r
                    = g.chars ++ ',' :: (g'.chars ++ (e ++ (t ++ r))) := by
                  simp only [List.append_assoc, List.cons_append]
                rw [hs, show fuel + (k + n + 1) = fuel + k + n + 1 by omega,
                  skipIn_of_leave hleave, hpass, hrest]

/-- A bracket may close at once. -/
theorem enter_close (g : Gap) (r : List Char) :
    enter b opened (g.chars ++ [b.closer] ++ r) = .ok (.done, opened, r) := by
  have hsolid : Solid ([b.closer] ++ r) := by
    cases b <;> exact solid_cons rfl
  unfold enter
  rw [List.append_assoc, skipSpace_gap g hsolid]
  cases b <;> rfl

/-- Or it begins with an item. -/
theorem enter_item (g : Gap) (hs : Starts s) :
    enter b opened (g.chars ++ s)
      = (skipName b s).map fun r => (.value, b :: opened, r) := by
  unfold enter
  rw [skipSpace_gap g hs.solid]
  obtain ⟨c, s, rfl, -, hlist, hobject⟩ := hs
  have hc : c ≠ b.closer := by
    cases b with
    | list => exact hlist
    | object => exact hobject
  exact if_neg hc

/-- An opening bracket opens one. -/
theorem skipHead_opener (g : Gap) (s : List Char) :
    skipHead opened (g.chars ++ b.opener :: s) = enter b opened s := by
  have hsolid : Solid (b.opener :: s) := by
    cases b <;> exact solid_cons rfl
  unfold skipHead
  rw [skipSpace_gap g hsolid]
  cases b <;> rfl

/-- The scan gets over a bracket when it does over the values in it. -/
theorem passed_bracket {es : List (List Char)}
    (h : Separated b.closer true es t)
    (hes : ∀ e ∈ es, ∃ v, (ValueForm v ∧ Passed v) ∧ b.Holds e v) :
    Passed (b.opener :: t) := by
  intro g opened r _
  rw [List.cons_append]
  -- an empty bracket is one step; in another the first item needs no comma,
  -- and `passed_items` does the rest
  cases h with
  | close _ g' =>
      have hhead : skipHead opened
          (g.chars ++ b.opener :: (g'.chars ++ [b.closer] ++ r))
          = .ok (.done, opened, r) := by
        rw [skipHead_opener, enter_close]
      refine ⟨1, ?_, skipIn_of_head hhead⟩
      rw [List.length_cons]
      omega
  | @item _ lead e t es hlead ht =>
      cases hlead with
      | first g' =>
          obtain ⟨v, ⟨hform, hv⟩, he⟩ := hes e List.mem_cons_self
          obtain ⟨g'', hname, hlength⟩ :=
            skipName_of_holds he Gap.none (t ++ r)
          have hr : Delimited (t ++ r) :=
            Separated.delimited (by cases b <;> decide) ht r
          obtain ⟨n, hn, hpass⟩ := hv g'' (b :: opened) hr
          obtain ⟨k, hk, hrest⟩ := passed_items ht (fun e he => by
            obtain ⟨v, hv, hholds⟩ := hes e (List.mem_cons_of_mem _ he)
            exact ⟨v, hv.2, hholds⟩) opened r
          have hhead : skipHead opened
              (g.chars ++ b.opener :: (g'.chars ++ (e ++ t) ++ r))
              = .ok (.value, b :: opened, g''.chars ++ (v ++ (t ++ r))) := by
            rw [skipHead_opener, List.append_assoc, List.append_assoc,
              enter_item g' ((he.starts hform).append _)]
            show (skipName b (Gap.none.chars ++ (e ++ (t ++ r)))).map _ = _
            rw [hname]
            rfl
          refine ⟨k + n + 1, ?_, fun fuel => ?_⟩
          · simp only [List.length_append, List.length_cons, Gap.none,
              List.length_nil] at hlength ⊢
            omega
          · rw [show fuel + (k + n + 1) = fuel + k + n + 1 by omega,
              skipIn_of_head hhead, hpass, hrest]

/-- The scan gets over every value. -/
theorem ValueForm.passed (h : ValueForm v) : Passed v := by
  induction h with
  | null =>
      refine passed_scalar ValueForm.null.starts fun g opened r _ => ?_
      unfold skipHead
      rw [skipSpace_gap g (ValueForm.null.solid r)]
      rfl
  | yes =>
      refine passed_scalar ValueForm.yes.starts fun g opened r _ => ?_
      unfold skipHead
      rw [skipSpace_gap g (ValueForm.yes.solid r)]
      rfl
  | no =>
      refine passed_scalar ValueForm.no.starts fun g opened r _ => ?_
      unfold skipHead
      rw [skipSpace_gap g (ValueForm.no.solid r)]
      rfl
  | number n =>
      refine passed_scalar (ValueForm.number n).starts fun g opened r hr => ?_
      unfold skipHead
      rw [skipSpace_gap g ((ValueForm.number n).solid r)]
      have hskip : skipNumber (n.unsigned ++ r) = .ok r :=
        (skipNumber_eq_ok_iff n.negative).2 ⟨n, rfl, rfl, hr.ends n⟩
      unfold Numeral.chars
      cases hneg : n.negative with
      | true =>
          show (skipNumber (n.unsigned ++ r)).map _ = _
          rw [hskip]
          rfl
      | false =>
          -- no other value starts with a digit
          obtain ⟨c, cs, hn, hc⟩ := n.exists_digit
          rw [hn] at hskip
          simp only [Bool.false_eq_true, if_false, hn, List.cons_append,
            if_neg (digit_ne hc rfl : c ≠ '['),
            if_neg (digit_ne hc rfl : c ≠ '\x7b'),
            if_neg (digit_ne hc rfl : c ≠ 'n'),
            if_neg (digit_ne hc rfl : c ≠ 't'),
            if_neg (digit_ne hc rfl : c ≠ 'f'),
            if_neg (digit_ne hc rfl : c ≠ '-'), if_pos hc]
          rw [← List.cons_append, hskip]
          rfl
  | text hform =>
      refine passed_scalar (ValueForm.text hform).starts
        fun g opened r _ => ?_
      unfold skipHead
      rw [quote_append, skipSpace_gap g (solid_cons rfl)]
      show (skipText false 0 _).map _ = _
      rw [skipText_eq_ok_iff.2 ⟨_, hform, rfl⟩]
      rfl
  | @array items t ht hitems ih =>
      exact passed_bracket (b := .list) ht fun e he =>
        ⟨e, ⟨hitems e he, ih e he⟩, rfl⟩
  | @object ms t ht hnames hvalues ih =>
      refine passed_bracket (b := .object) ht fun e he => ?_
      obtain ⟨m, hm, rfl⟩ := List.mem_map.1 he
      exact ⟨m.value, ⟨hvalues m hm, ih m hm⟩, m, hnames m hm, rfl, rfl⟩

/-- A value is passed over up to its end. -/
theorem skipValue_complete (h : ValueForm v) (g : Gap) (hr : Delimited r) :
    skipValue (g.chars ++ (v ++ r)) = .ok r := by
  obtain ⟨n, hn, hpass⟩ := h.passed g [] hr
  unfold skipValue
  have hfuel : n ≤ (g.chars ++ (v ++ r)).length + 1 := by
    simp only [List.length_append]
    omega
  obtain ⟨fuel, hfuel⟩ := Nat.exists_eq_add_of_le' hfuel
  rw [hfuel, hpass, skipIn]

end PairingHarness.Json
