/-
What stands in a text can be read in one way only.

Where the reader goes on behind blanks, a key without quotes or quotes in
a row depends on what comes next: runs that stop before a character of
another kind are determined (`Front.unique`). The items of a string are
told apart by their first characters, so a string is determined once no
quote follows it (`Body.unique`, `Quoted.unique`), and with it a line that
gives a string to a key without quotes (`document_entry_iff`).

Every lemma is of one shape: two readings from one place, with what may
come next known to be of another kind, are one reading. The kinds
exclude each other by their first characters, so no induction is needed
but the one along a string and the one along a document.
-/
import PairingHarness.Proofs.Text.Toml.Grammar

namespace PairingHarness.Text.Toml

variable {p q : Char → Bool} {s t t' r r' w w' : List Char} {f g : Form}

-- ================================================================ runs

@[simp]
theorem stops_nil : Stops p [] := by
  simp [Stops]

@[simp]
theorem stops_cons {c : Char} : Stops p (c :: r) ↔ p c = false := by
  simp [Stops]

theorem Stops.mono (h : Stops q r) (hpq : ∀ c, p c = true → q c = true) :
    Stops p r := by
  intro c hc
  have hq := h c hc
  cases hp : p c with
  | false => rfl
  | true =>
      rw [hpq c hp] at hq
      exact hq

theorem Front.takeWhile (h : Front p w s r) (hr : Stops p r) :
    s.takeWhile p = w := by
  rw [← h.append, List.takeWhile_append_of_pos h.all]
  cases r with
  | nil => simp
  | cons c r => simp [stops_cons.1 hr]

/-- A run that stops is determined. -/
theorem Front.unique (h : Front p w s r) (h' : Front p w' s r')
    (hr : Stops p r) (hr' : Stops p r') : w = w' ∧ r = r' := by
  have hw : w = w' := (h.takeWhile hr).symm.trans (h'.takeWhile hr')
  subst hw
  exact ⟨rfl, List.append_cancel_left (h.append.trans h'.append.symm)⟩

/-- What is skipped up to a character of another kind is determined. -/
theorem Skips.unique (h : Skips p s r) (h' : Skips p s r')
    (hr : Stops p r) (hr' : Stops p r') : r = r' := by
  obtain ⟨w, h⟩ := h
  obtain ⟨w', h'⟩ := h'
  exact (h.unique h' hr hr').2

theorem Skips.refl (r : List Char) : Skips p r r :=
  ⟨[], rfl, by simp⟩

theorem Skips.cons {c : Char} (hc : p c = true) (h : Skips p s r) :
    Skips p (c :: s) r := by
  obtain ⟨w, rfl, hw⟩ := h
  exact ⟨c :: w, rfl, by simpa [hc] using hw⟩

/-- There is nothing to skip where another character is next. -/
theorem Skips.eq_of_stops (h : Skips p s r) (hs : Stops p s) : r = s := by
  obtain ⟨w, rfl, hw⟩ := h
  cases w with
  | nil => rfl
  | cons c w =>
      have hc := hw c (by simp)
      rw [stops_cons.1 hs] at hc
      cases hc

/-- What comes next is either skipped or there behind. -/
theorem Skips.stops (h : Skips p s r) (hpq : ∀ c, p c = true → q c = false)
    (hr : Stops q r) : Stops q s := by
  obtain ⟨w, rfl, hw⟩ := h
  cases w with
  | nil => exact hr
  | cons c w => exact stops_cons.2 (hpq c (hw c (by simp)))

-- ========================================================= line breaks

/-- What holds of none of the four blanks and line ends. -/
theorem eq_false_of_isGap {c : Char} (h : isGap c = true)
    (hp : [' ', '\t', '\n', '\x0d'].all (!p ·) = true) : p c = false := by
  simp only [isGap, isBlank, isLineEnd, Bool.or_eq_true,
    decide_eq_true_eq] at h
  simp only [List.all_cons, List.all_nil, Bool.and_true, Bool.and_eq_true,
    Bool.not_eq_true'] at hp
  obtain ⟨hspace, htab, hlf, hcr⟩ := hp
  rcases h with (rfl | rfl) | (rfl | rfl)
  · exact hspace
  · exact htab
  · exact hlf
  · exact hcr

theorem isGap_of_isBlank {c : Char} (h : isBlank c = true) :
    isGap c = true := by
  simp [isGap, h]

theorem isGap_of_isLineEnd {c : Char} (h : isLineEnd c = true) :
    isGap c = true := by
  simp [isGap, h]

/-- A line break is read in one way, of one character or two. -/
theorem LineBreak.unique {b b' : List Char} (h : LineBreak s b r)
    (h' : LineBreak s b' r') : b = b' ∧ r = r' := by
  cases h with
  | lf => cases h'; exact ⟨rfl, rfl⟩
  | crlf => cases h'; exact ⟨rfl, rfl⟩

theorem LineBreak.not_stops {b : List Char} (h : LineBreak s b r) :
    ¬Stops isLineEnd s := by
  cases h <;> simp [isLineEnd]

theorem LineBreak.stops {b : List Char} (h : LineBreak s b r)
    (hp : ∀ c, isLineEnd c = true → p c = false) : Stops p s := by
  cases h with
  | lf => exact stops_cons.2 (hp _ rfl)
  | crlf => exact stops_cons.2 (hp _ rfl)

/-- A gap skips blanks and line breaks only. -/
theorem Gap.skips (h : Gap s r) : Skips isGap s r := by
  induction h with
  | none => exact .refl _
  | blank hc _ ih => exact .cons (isGap_of_isBlank hc) ih
  | lineBreak hb _ ih =>
      cases hb with
      | lf => exact .cons rfl ih
      | crlf => exact .cons rfl (.cons rfl ih)

theorem Gap.of_skips (h : Skips isBlank s t) (hg : Gap t r) : Gap s r := by
  obtain ⟨w, rfl, hw⟩ := h
  induction w with
  | nil => exact hg
  | cons c w ih =>
      exact .blank (hw c (by simp)) (ih fun x hx => hw x (by simp [hx]))

-- =============================================================== quotes

/-- Whether a character is the quote around a string of the form. -/
def Form.closes (f : Form) (c : Char) : Bool :=
  c = f.quote

theorem Form.closes_isQuote {c : Char} (h : f.closes c = true) :
    isQuote c = true := by
  obtain rfl : c = f.quote := by simpa [closes] using h
  cases f <;> rfl

theorem Form.closes_of_isGap {c : Char} (h : isGap c = true) :
    f.closes c = false := by
  refine eq_false_of_isGap h ?_
  cases f <;> rfl

/-- Quotes in a row are read to the last one. -/
theorem Form.front_run (f : Form) (k : Nat) (r : List Char) :
    Front f.closes (f.run k) (f.run k ++ r) r where
  append := rfl
  all c hc := by
    rw [run, List.mem_replicate] at hc
    simp [closes, hc.2]

/-- How many quotes there are in a row is determined. -/
theorem Form.run_unique {k k' : Nat} (h : f.run k ++ r = f.run k' ++ r')
    (hr : Stops f.closes r) (hr' : Stops f.closes r') :
    k = k' ∧ r = r' := by
  have hfront : Front f.closes (f.run k) (f.run k' ++ r') r := by
    rw [← h]
    exact f.front_run k r
  obtain ⟨hrun, hrest⟩ := hfront.unique (f.front_run k' r') hr hr'
  refine ⟨?_, hrest⟩
  simpa [run] using congrArg List.length hrun

theorem Form.run_add (f : Form) (k l : Nat) :
    f.run k ++ f.run l = f.run (k + l) :=
  List.replicate_append_replicate

-- ================================================================ items

theorem escape?_of_digitCount? {c : Char} {n : Nat}
    (h : digitCount? c = some n) : escape? c = none := by
  unfold digitCount? at h
  split at h
  · next hc => subst hc; rfl
  · split at h
    · next hc => subst hc; rfl
    · cases h

/-- An escape stands for one character and has one end. -/
theorem Escape.unique {c c' : Char} (h : Escape s c r)
    (h' : Escape s c' r') : c = c' ∧ r = r' := by
  cases h with
  | letter he =>
      cases h' with
      | letter he' => exact ⟨Option.some.inj (he.symm.trans he'), rfl⟩
      | number hcount' =>
          rw [escape?_of_digitCount? hcount'] at he
          cases he
  | @number c digits r v hcount hvalue =>
      generalize hs : c :: (digits ++ r) = s at h'
      cases h' with
      | letter he' =>
          injection hs with hc
          rw [← hc, escape?_of_digitCount? hcount] at he'
          cases he'
      | number hcount' hvalue' =>
          injection hs with hc hdigits
          subst hc
          have hlength := Option.some.inj (hcount.symm.trans hcount')
          obtain ⟨rfl, rfl⟩ := List.append_inj hdigits hlength
          obtain rfl := Option.some.inj (hvalue.symm.trans hvalue')
          exact ⟨rfl, rfl⟩

/-- No escape begins with a blank or a line break. -/
theorem Escape.stops {c : Char} (h : Escape s c r) : Stops isGap s := by
  cases h with
  | letter he =>
      refine stops_cons.2 (Bool.eq_false_iff.2 fun hc => ?_)
      have hnone := eq_false_of_isGap (p := fun c => (escape? c).isSome) hc
        rfl
      simp [he] at hnone
  | number hcount =>
      refine stops_cons.2 (Bool.eq_false_iff.2 fun hc => ?_)
      have hnone := eq_false_of_isGap
        (p := fun c => (digitCount? c).isSome) hc rfl
      simp [hcount] at hnone

/-- A line that ends after some blanks begins with one of both. -/
theorem not_stops_of_lineBreak {b : List Char} (h : Skips isBlank s t)
    (hb : LineBreak t b r) : ¬Stops isGap s := by
  intro hs
  have heq := h.eq_of_stops (hs.mono fun c => isGap_of_isBlank)
  subst heq
  exact hb.not_stops (hs.mono fun c => isGap_of_isLineEnd)

/-- No item begins with the quote of its string. -/
theorem Item.stops (h : Item f s t r) : Stops f.closes s := by
  have hslash : f.closes '\\' = false := by cases f <;> rfl
  cases h with
  | raw _ hquote => simpa [Form.closes] using hquote
  | lineBreak _ hb =>
      exact hb.stops fun c hc =>
        Form.closes_of_isGap (isGap_of_isLineEnd hc)
  | escape _ _ => simpa using hslash
  | fold => simpa using hslash

theorem isLineEnd_of_isRaw {c : Char} (h : isRaw c = true) :
    isLineEnd c = false := by
  refine Bool.eq_false_iff.2 fun hc => ?_
  simp only [isLineEnd, Bool.or_eq_true, decide_eq_true_eq] at hc
  rcases hc with rfl | rfl <;> cases h

/-- An item of a string means one thing and has one end: the first character
tells which kind it is. -/
theorem Item.unique (h : Item f s t r) (h' : Item f s t' r') :
    t = t' ∧ r = r' := by
  -- what an item starts with tells which one it is, but for the two that
  -- start with a backslash: a fold goes on to a line break, which no escape
  -- does
  cases h with
  | raw hc _ hslash =>
      cases h' with
      | raw => exact ⟨rfl, rfl⟩
      | lineBreak _ hb =>
          exact absurd (stops_cons.2 (isLineEnd_of_isRaw hc)) hb.not_stops
      | escape hescapes => exact absurd rfl (hslash hescapes)
      | fold hescapes => exact absurd rfl (hslash hescapes)
  | lineBreak _ hb =>
      cases h' with
      | raw hc =>
          exact absurd (stops_cons.2 (isLineEnd_of_isRaw hc)) hb.not_stops
      | lineBreak _ hb' => exact hb.unique hb'
      | escape => cases hb
      | fold => cases hb
  | escape _ he =>
      cases h' with
      | raw _ _ hslash => exact absurd rfl (hslash ‹_›)
      | lineBreak _ hb' => cases hb'
      | escape _ he' =>
          obtain ⟨rfl, rfl⟩ := he.unique he'
          exact ⟨rfl, rfl⟩
      | fold _ _ hs hb => exact absurd he.stops (not_stops_of_lineBreak hs hb)
  | fold _ _ hs hb hgap hr =>
      cases h' with
      | raw _ _ hslash => exact absurd rfl (hslash ‹_›)
      | lineBreak _ hb' => cases hb'
      | escape _ he => exact absurd he.stops (not_stops_of_lineBreak hs hb)
      | fold _ _ hs' hb' hgap' hr' =>
          have hskips := (Gap.of_skips hs (.lineBreak hb hgap)).skips
          have hskips' := (Gap.of_skips hs' (.lineBreak hb' hgap')).skips
          exact ⟨rfl, hskips.unique hskips' hr hr'⟩

-- ============================================================== strings

/-- A string behind its opening quotes is determined where no other such
quote follows it. -/
theorem Body.unique (h : Body f s t r) (h' : Body f s t' r')
    (hr : Stops f.closes r) (hr' : Stops f.closes r') :
    t = t' ∧ r = r' := by
  -- the quotes in a row tell the end of a string from an item: there are
  -- more of them than can stand in front of one
  induction h generalizing t' with
  | @close k r hk =>
      generalize hs : f.run (k + (f.limit + 1)) ++ r = s at h'
      cases h' with
      | @close k' _ hk' =>
          obtain ⟨hcount, rfl⟩ := Form.run_unique hs hr hr'
          obtain rfl : k = k' := by omega
          exact ⟨rfl, rfl⟩
      | item hk' hitem' _ =>
          obtain ⟨hcount, -⟩ := Form.run_unique hs hr hitem'.stops
          omega
  | @item k s t s' u r hk hitem hbody ih =>
      generalize hs : f.run k ++ s = source at h'
      cases h' with
      | close hk' =>
          obtain ⟨hcount, -⟩ := Form.run_unique hs hitem.stops hr'
          omega
      | item hk' hitem' hbody' =>
          obtain ⟨rfl, rfl⟩ := Form.run_unique hs hitem.stops hitem'.stops
          obtain ⟨rfl, rfl⟩ := hitem.unique hitem'
          obtain ⟨rfl, rfl⟩ := ih hbody' hr
          exact ⟨rfl, rfl⟩

/-- The quotes at the front of a string behind its opening quotes. -/
theorem Body.front (h : Body f s t r) (hr : Stops f.closes r) :
    ∃ k s', s = f.run k ++ s' ∧ Stops f.closes s' ∧ k ≤ 2 * f.limit + 1 := by
  cases h with
  | @close k r hk => exact ⟨_, r, rfl, hr, by omega⟩
  | @item k s _ _ _ _ hk hitem => exact ⟨k, s, rfl, hitem.stops, by omega⟩

/-- One or two quotes at the front of a string, or three and more, tell
whether it can have line breaks. -/
theorem Quoted.front (h : Quoted f s t r) (hr : Stops f.closes r) :
    ∃ k s', s = f.run (k + 1) ++ s' ∧ Stops f.closes s'
      ∧ (f.hasLines = true ↔ 2 ≤ k) := by
  cases h with
  | flush _ hbody =>
      obtain ⟨k, s', rfl, hs', hk⟩ := hbody.front hr
      refine ⟨f.limit + k, s', ?_, hs', ?_⟩
      · rw [← List.append_assoc, Form.run_add]
        congr 2
        omega
      · cases hf : f.hasLines with
        | false =>
            have hlimit : f.limit = 0 := by simp [Form.limit, hf]
            exact iff_of_false Bool.false_ne_true (by omega)
        | true =>
            have hlimit : f.limit = 2 := by simp [Form.limit, hf]
            exact iff_of_true rfl (by omega)
  | @opened s _ _ _ _ hlines hb =>
      refine ⟨f.limit, s, rfl, hb.stops fun c hc => ?_, ?_⟩
      · exact Form.closes_of_isGap (isGap_of_isLineEnd hc)
      · simp [hlines, Form.limit]

/-- The form of a string is determined. -/
theorem Quoted.form_unique (h : Quoted f s t r) (h' : Quoted g s t' r')
    (hr : Stops isQuote r) (hr' : Stops isQuote r') : f = g := by
  obtain ⟨k, a, hs, ha, hk⟩ :=
    h.front (hr.mono fun c => Form.closes_isQuote)
  obtain ⟨k', a', hs', ha', hk'⟩ :=
    h'.front (hr'.mono fun c => Form.closes_isQuote)
  have heq := hs.symm.trans hs'
  have hquote : f.quote = g.quote := by
    simpa [Form.run, List.replicate_succ] using congrArg List.head? heq
  have hrun : g.run (k' + 1) = f.run (k' + 1) := by
    simp only [Form.run, hquote]
  have hcloses : g.closes = f.closes := by
    funext c
    simp only [Form.closes, hquote]
  rw [hrun] at heq
  rw [hcloses] at ha'
  obtain ⟨hcount, -⟩ := Form.run_unique heq ha ha'
  obtain rfl : k = k' := by omega
  have hlines : f.hasLines = g.hasLines :=
    Bool.eq_iff_iff.2 (hk.trans hk'.symm)
  cases f <;> cases g <;> simp_all [Form.quote, Form.hasLines]

/-- A string is determined where no quote follows it. -/
theorem Quoted.unique (h : Quoted f s t r) (h' : Quoted g s t' r')
    (hr : Stops isQuote r) (hr' : Stops isQuote r') : t = t' ∧ r = r' := by
  obtain rfl := h.form_unique h' hr hr'
  replace hr := hr.mono fun c => Form.closes_isQuote (f := f)
  replace hr' := hr'.mono fun c => Form.closes_isQuote (f := f)
  cases h with
  | @flush s _ _ hflush hbody =>
      generalize hs : f.run (f.limit + 1) ++ s = source at h'
      cases h' with
      | flush _ hbody' =>
          obtain rfl := List.append_cancel_left hs
          exact hbody.unique hbody' hr hr'
      | opened hlines hb' =>
          obtain rfl := List.append_cancel_left hs
          exact absurd (hflush hlines) hb'.not_stops
  | @opened s _ _ _ _ hlines hb hbody =>
      generalize hs : f.run (f.limit + 1) ++ s = source at h'
      cases h' with
      | flush hflush' _ =>
          obtain rfl := List.append_cancel_left hs
          exact absurd (hflush' hlines) hb.not_stops
      | opened _ hb' hbody' =>
          obtain rfl := List.append_cancel_left hs
          obtain ⟨-, rfl⟩ := hb.unique hb'
          exact hbody.unique hbody' hr hr'

theorem Quoted.head (h : Quoted f s t r) : ∃ s', s = f.quote :: s' := by
  cases h <;> exact ⟨_, rfl⟩

-- ================================================================ lines

theorem isBare_of_isGap {c : Char} (h : isGap c = true) :
    isBare c = false :=
  eq_false_of_isGap h rfl

theorem isQuote_of_isGap {c : Char} (h : isGap c = true) :
    isQuote c = false :=
  eq_false_of_isGap h rfl

theorem isGap_of_isBare {c : Char} (h : isBare c = true) :
    isGap c = false :=
  Bool.eq_false_iff.2 fun hc => by simp [isBare_of_isGap hc] at h

/-- A key without quotes is all that can be read where it stands. -/
theorem KeyPart.bare_unique {name : String} (h : KeyPart s name r)
    (hfront : Front isBare w s r') (hne : w ≠ []) (hr : Stops isBare r)
    (hr' : Stops isBare r') : name = String.ofList w ∧ r = r' := by
  cases h with
  | bare _ hfront' =>
      obtain ⟨rfl, rfl⟩ := hfront'.unique hfront hr hr'
      exact ⟨rfl, rfl⟩
  | @quoted f _ _ _ _ hquoted =>
      obtain ⟨s', rfl⟩ := hquoted.head
      obtain ⟨c, w', rfl⟩ := List.exists_cons_of_ne_nil hne
      obtain rfl : c = f.quote := (List.cons.inj hfront.append).1
      have hbare := hfront.all f.quote (by simp)
      cases f <;> cases hbare

/-- The same with the equals sign behind it: it has no further parts. -/
theorem Key.bare_unique {path : List String} (h : Key s path t)
    (hsign : Skips isBlank t ('=' :: r)) (hfront : Front isBare w s t')
    (hne : w ≠ []) (hsign' : Skips isBlank t' ('=' :: r')) :
    path = [String.ofList w] ∧ r = r' := by
  have hstops : ∀ {x c y}, Skips isBlank x (c :: y) → isBare c = false →
      Stops isBare x := fun h hc =>
    h.stops (fun _ hx => isBare_of_isGap (isGap_of_isBlank hx))
      (stops_cons.2 hc)
  have hr' := hstops hsign' rfl
  cases h with
  | part hpart =>
      obtain ⟨rfl, rfl⟩ :=
        hpart.bare_unique hfront hne (hstops hsign rfl) hr'
      have heq := hsign.unique hsign' (by simp [isBlank]) (by simp [isBlank])
      exact ⟨rfl, (List.cons.inj heq).2⟩
  | dotted hpart hdot =>
      obtain ⟨-, rfl⟩ := hpart.bare_unique hfront hne (hstops hdot rfl) hr'
      have heq := hdot.unique hsign' (by simp [isBlank]) (by simp [isBlank])
      cases (List.cons.inj heq).1

/-- Behind a value no quote is next on its line. -/
theorem Comment.stops (h : Comment t r) (hs : Skips isBlank s t)
    (hr : Stops (!isLineEnd ·) r) : Stops isQuote s := by
  refine hs.stops (fun c hc => isQuote_of_isGap (isGap_of_isBlank hc)) ?_
  cases h with
  | none =>
      refine hr.mono fun c hc => ?_
      cases hend : isLineEnd c with
      | false => rfl
      | true =>
          rw [isQuote_of_isGap (isGap_of_isLineEnd hend)] at hc
          cases hc
  | some => simp [isQuote]

/-- A value does not begin with a blank. -/
theorem ValueForm.stops {value : Value} (h : ValueForm s value r) :
    Stops isBlank s := by
  cases h with
  | @string f _ _ _ hquoted =>
      obtain ⟨s', rfl⟩ := hquoted.head
      cases f <;> exact stops_cons.2 rfl
  | other ho =>
      refine stops_cons.2 (Bool.eq_false_iff.2 fun hc => ?_)
      rw [eq_false_of_isGap (p := isOpener) (isGap_of_isBlank hc) rfl] at ho
      cases ho

/-- A string is the only value that can be read where it stands. -/
theorem ValueForm.string_unique {value : Value} (h : ValueForm s value r)
    (hquoted : Quoted f s t r') (hr : Stops isQuote r)
    (hr' : Stops isQuote r') :
    value = .string (String.ofList t) ∧ r = r' := by
  cases h with
  | string hquoted' =>
      obtain ⟨rfl, rfl⟩ := hquoted'.unique hquoted hr hr'
      exact ⟨rfl, rfl⟩
  | other ho =>
      obtain ⟨s', hs⟩ := hquoted.head
      rw [(List.cons.inj hs).1] at ho
      cases f <;> cases ho

section Entry

variable {s₁ s₂ v more : List Char} {xs : List Statement}

/-- A key without quotes and a string, with the equals sign between them
and nothing behind them, are all that can be read on their line. -/
theorem Line.entry_unique (h : Line s xs r)
    (hr : Stops (!isLineEnd ·) r) (hfront : Front isBare w s s₁)
    (hne : w ≠ []) (hsign : Skips isBlank s₁ ('=' :: s₂))
    (hgap : Skips isBlank s₂ v) (hquoted : Quoted f v t ('\n' :: more)) :
    xs = [.entry [String.ofList w] (.string (String.ofList t))]
      ∧ r = '\n' :: more := by
  have hbreak : ∀ {p}, p '\n' = false → Stops p ('\n' :: more) :=
    fun hp => stops_cons.2 hp
  obtain ⟨c, s', rfl, hc⟩ : ∃ c s', s = c :: s' ∧ isBare c = true := by
    obtain ⟨c, w', rfl⟩ := List.exists_cons_of_ne_nil hne
    exact ⟨c, w' ++ s₁, hfront.append.symm, hfront.all c (by simp)⟩
  obtain ⟨hblank, hend⟩ := Bool.or_eq_false_iff.1 (isGap_of_isBare hc)
  have hstart : Stops isBlank (c :: s') := stops_cons.2 hblank
  obtain ⟨hleft, hcontent, hright, hcomment⟩ := h
  obtain rfl := hleft.eq_of_stops hstart
  -- a line that starts with a bare name is an entry: neither empty nor the
  -- head of a table
  cases hcontent with
  | none =>
      obtain rfl := hright.eq_of_stops hstart
      cases hcomment with
      | none =>
          rw [stops_cons, hend] at hr
          cases hr
      | some => cases hc
  | table => cases hc
  | element => cases hc
  | entry hkey hsign' hgap' hvalue =>
      obtain ⟨rfl, rfl⟩ := hkey.bare_unique hsign' hfront hne hsign
      have hstring : ValueForm v _ _ := .string hquoted
      obtain rfl := hgap'.unique hgap hvalue.stops hstring.stops
      obtain ⟨rfl, rfl⟩ := hvalue.string_unique hquoted
        (hcomment.stops hright hr) (hbreak rfl)
      obtain rfl := hright.eq_of_stops (hbreak rfl)
      cases hcomment with
      | none => exact ⟨rfl, rfl⟩

/-- A document that begins with such a line says what is on it first. -/
theorem document_entry_iff (hfront : Front isBare w s s₁) (hne : w ≠ [])
    (hsign : Skips isBlank s₁ ('=' :: s₂)) (hgap : Skips isBlank s₂ v)
    (hquoted : Quoted f v t ('\n' :: more)) :
    Document s xs ↔ ∃ later, Document more later ∧ xs
      = .entry [String.ofList w] (.string (String.ofList t)) :: later := by
  constructor
  · intro h
    cases h with
    | last hline =>
        obtain ⟨-, hmore⟩ :=
          hline.entry_unique stops_nil hfront hne hsign hgap hquoted
        cases hmore
    | @next _ r b _ _ later hline hbreak hlater =>
        have hr : Stops (!isLineEnd ·) r :=
          hbreak.stops fun c hc => by simp [hc]
        obtain ⟨rfl, rfl⟩ :=
          hline.entry_unique hr hfront hne hsign hgap hquoted
        cases hbreak with
        | lf => exact ⟨later, hlater, rfl⟩
  · rintro ⟨later, hlater, rfl⟩
    have hcontent : Content s _ ('\n' :: more) :=
      .entry (.part (.bare hne hfront)) hsign hgap (.string hquoted)
    exact .next (.intro (.refl s) hcontent (.refl _) .none) .lf hlater

end Entry

/-- An empty line says nothing. -/
theorem Line.of_nil {xs : List Statement} (h : Line [] xs r) :
    xs = [] ∧ r = [] := by
  obtain ⟨hleft, hcontent, hright, hcomment⟩ := h
  obtain rfl := hleft.eq_of_stops stops_nil
  cases hcontent with
  | none =>
      obtain rfl := hright.eq_of_stops stops_nil
      cases hcomment with
      | none => exact ⟨rfl, rfl⟩
  | entry hkey =>
      have hpart : ∀ {name r}, ¬KeyPart [] name r := by
        intro name r hpart
        cases hpart with
        | bare hne hfront =>
            exact hne (List.append_eq_nil_iff.1 hfront.append).1
        | quoted _ hquoted =>
            obtain ⟨_, hs⟩ := hquoted.head
            cases hs
      cases hkey with
      | part h => exact absurd h hpart
      | dotted h => exact absurd h hpart

/-- The empty document says nothing. -/
theorem document_nil_iff {xs : List Statement} :
    Document [] xs ↔ xs = [] := by
  constructor
  · intro h
    cases h with
    | last hline => exact hline.of_nil.1
    | next hline hbreak =>
        obtain ⟨-, rfl⟩ := hline.of_nil
        cases hbreak
  · rintro rfl
    exact .last (.intro (.refl []) .none (.refl []) .none)

end PairingHarness.Text.Toml
