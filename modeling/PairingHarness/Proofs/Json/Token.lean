/-
What the readers of blanks, words and strings accept.

Each of these readers is determined by the grammar: what it takes off
the front of a text is a run of blanks that cannot be longer, a word, or
a string up to its first quote that is no part of an escape. So the
facts are equivalences (`skipSpace_eq_iff`, `readWord_eq_ok_iff`,
`readText_eq_ok_iff`, `skipText_eq_ok_iff`), and a proof about a larger
reader uses them in both directions.

The two readers of strings go through modes; of these only the plain one
is looked at from outside. The digits of a numeric escape are taken
together (`readText_unit`, `skipText_numeric`), which leaves an induction on
the length of the text with one case for every production.

A numeric escape may stand for half a character. The reader of strings
wants the other half right behind it, the one that passes strings over
does not care, and this is the one place where `Spells` and `TextForm`
part.
-/
import PairingHarness.Json.Skip
import PairingHarness.Proofs.Json.Grammar

namespace PairingHarness.Json

variable {s r t : List Char}

-- ================================================================ results

/-- A result that was mapped came from one that was there. -/
theorem map_eq_ok {ε α β : Type} {f : α → β} {x : Except ε α} {b : β}
    (h : x.map f = .ok b) : ∃ a, x = .ok a ∧ f a = b := by
  cases x with
  | error e => cases h
  | ok a =>
      cases h
      exact ⟨a, rfl, rfl⟩

/-- A sequence that came to a result had both parts come to one. -/
theorem bind_eq_ok {ε α β : Type} {x : Except ε α} {f : α → Except ε β}
    {b : β} (h : (x >>= f) = .ok b) : ∃ a, x = .ok a ∧ f a = .ok b := by
  cases x with
  | error e => cases h
  | ok a => exact ⟨a, rfl, h⟩

/-- A sequence goes on from the result of its first part. -/
theorem bind_of_ok {ε α β : Type} {x : Except ε α} {a : α} (h : x = .ok a)
    (f : α → Except ε β) : (x >>= f) = f a := by
  rw [h]
  rfl

-- ================================================================= blanks

/-- No blank comes first. -/
def Solid (s : List Char) : Prop :=
  ∀ c ∈ s.head?, isSpace c = false

/-- A text whose first character is no blank. -/
theorem solid_cons {c : Char} (h : isSpace c = false) : Solid (c :: s) := by
  intro d hd
  cases hd
  exact h

/-- The end of the text is no blank. -/
theorem solid_nil : Solid [] := by
  intro c hc
  cases hc

/-- Where no blank stands in front nothing is skipped. -/
theorem skipSpace_solid (h : Solid s) : skipSpace s = s := by
  cases s with
  | nil => rfl
  | cons c s =>
      unfold skipSpace
      rw [List.dropWhile_cons_of_neg]
      rw [h c rfl]
      exact Bool.false_ne_true

/-- Blanks are skipped up to what is none. -/
theorem skipSpace_gap (g : Gap) (h : Solid s) :
    skipSpace (g.chars ++ s) = s := by
  unfold skipSpace
  rw [List.dropWhile_append_of_pos g.blank]
  exact skipSpace_solid h

/-- After skipping no blank is left in front. -/
theorem solid_skipSpace (s : List Char) : Solid (skipSpace s) := by
  intro c hc
  unfold skipSpace at hc
  rw [Option.mem_def] at hc
  have := List.head?_dropWhile_not isSpace s
  rw [hc] at this
  simpa using this

/-- What was skipped was blanks. -/
theorem exists_gap (s : List Char) :
    ∃ g : Gap, s = g.chars ++ skipSpace s := by
  refine ⟨⟨s.takeWhile isSpace, fun c hc => ?_⟩,
    List.takeWhile_append_dropWhile.symm⟩
  exact List.all_eq_true.1 List.all_takeWhile c hc

/-- The blanks in front are skipped, and nothing else. -/
theorem skipSpace_eq_iff :
    skipSpace s = t ↔ Solid t ∧ ∃ g : Gap, s = g.chars ++ t := by
  constructor
  · rintro rfl
    exact ⟨solid_skipSpace s, exists_gap s⟩
  · rintro ⟨ht, g, rfl⟩
    exact skipSpace_gap g ht

-- ================================================================== words

/-- A word is read letter by letter: the text begins with it. -/
theorem readWord_eq_ok_iff {letters : List Char} :
    readWord letters s = .ok r ↔ s = letters ++ r := by
  induction letters generalizing s with
  | nil => simp [readWord]
  | cons l letters ih =>
      cases s with
      | nil => simp [readWord]
      | cons c s =>
          by_cases hc : c = l
          · simp [readWord, hc, ih]
          · simp [readWord, hc]

-- =============================================== the digits of an escape

/-- What follows once the digits of an escape are read, after the escape
of a leading surrogate or not. -/
def afterUnit (lead : Option Nat) (v : Nat) (rest : List Char) :
    Except Fault (List Char × List Char) :=
  match lead with
  | none =>
    if isTrail v then .error (.before .loneSurrogate rest)
    else if isLead v then readText (.paired v) rest
    else push (Char.ofNat v) (readText .plain rest)
  | some l =>
    if isTrail v then push (pairChar l v) (readText .plain rest)
    else .error (.before .loneSurrogate rest)

/-- A number of four hexadecimal digits is made of the four. -/
theorem hexValue?_eq_some {a b c d : Char} {v : Nat}
    (h : hexValue? a b c d = some v) :
    ∃ w x y z, hexDigit? a = some w ∧ hexDigit? b = some x
      ∧ hexDigit? c = some y ∧ hexDigit? d = some z
      ∧ v = ((w * 16 + x) * 16 + y) * 16 + z := by
  unfold hexValue? at h
  simp only [Option.bind_eq_bind, Option.bind_eq_some_iff] at h
  obtain ⟨w, hw, x, hx, y, hy, z, hz, hv⟩ := h
  cases hv
  exact ⟨w, x, y, z, hw, hx, hy, hz, rfl⟩

/-- And four digits make one. -/
theorem hexValue?_of_digits {a b c d : Char} {w x y z : Nat}
    (hw : hexDigit? a = some w) (hx : hexDigit? b = some x)
    (hy : hexDigit? c = some y) (hz : hexDigit? d = some z) :
    hexValue? a b c d = some (((w * 16 + x) * 16 + y) * 16 + z) := by
  unfold hexValue?
  rw [hw, hx, hy, hz]
  rfl

/-- Four digits of an escape are read as one unit, whatever it then stands
for. -/
theorem readText_unit (lead : Option Nat) {a b c d : Char} {v : Nat}
    (h : hexValue? a b c d = some v) (rest : List Char) :
    readText (.hex lead 4 0) (a :: b :: c :: d :: rest)
      = afterUnit lead v rest := by
  obtain ⟨w, x, y, z, hw, hx, hy, hz, rfl⟩ := hexValue?_eq_some h
  cases lead <;> simp [readText, hw, hx, hy, hz, afterUnit]

/-- A digit is read before the last one. -/
private theorem readText_hex_ok {lead : Option Nat} {n v : Nat}
    {x : List Char × List Char}
    (h : readText (.hex lead (n + 2) v) s = .ok x) :
    ∃ c rest d, s = c :: rest ∧ hexDigit? c = some d
      ∧ readText (.hex lead (n + 1) (v * 16 + d)) rest = .ok x := by
  cases s with
  | nil => cases h
  | cons c rest =>
      unfold readText at h
      cases hd : hexDigit? c with
      | none =>
          simp only [hd] at h
          split at h <;> cases h
      | some d =>
          simp only [hd, show 1 < n + 2 by omega, if_true] at h
          exact ⟨c, rest, d, rfl, hd, h⟩

/-- Where an escape was read, its four digits are there. -/
theorem readText_unit_ok {lead : Option Nat} {x : List Char × List Char}
    (h : readText (.hex lead 4 0) s = .ok x) :
    ∃ a b c d v rest, s = a :: b :: c :: d :: rest
      ∧ hexValue? a b c d = some v ∧ afterUnit lead v rest = .ok x := by
  obtain ⟨a, s₁, w, rfl, hw, h₁⟩ := readText_hex_ok h
  obtain ⟨b, s₂, x, rfl, hx, h₂⟩ := readText_hex_ok h₁
  obtain ⟨c, s₃, y, rfl, hy, h₃⟩ := readText_hex_ok h₂
  cases s₃ with
  | nil => cases h₃
  | cons d rest =>
      cases hz : hexDigit? d with
      | none =>
          unfold readText at h₃
          simp only [hz] at h₃
          split at h₃ <;> cases h₃
      | some z =>
          have hv := hexValue?_of_digits hw hx hy hz
          refine ⟨a, b, c, d, _, rest, rfl, hv, ?_⟩
          rw [← readText_unit lead hv]
          exact h

-- ================================================================ strings

/-- A character is put in front of a text that was read. -/
theorem push_eq_ok {c : Char} {x : Except Fault (List Char × List Char)}
    {cs : List Char} (h : push c x = .ok (cs, r)) :
    ∃ cs', cs = c :: cs' ∧ x = .ok (cs', r) := by
  obtain ⟨⟨cs', r'⟩, hx, hcs⟩ := map_eq_ok h
  cases hcs
  exact ⟨cs', rfl, hx⟩

/-- The escape of a trailing surrogate is read behind that of a leading
one. -/
private theorem readText_paired_ok {l : Nat} {x : List Char × List Char}
    (h : readText (.paired l) s = .ok x) :
    ∃ a b c d v rest, s = '\\' :: 'u' :: a :: b :: c :: d :: rest
      ∧ hexValue? a b c d = some v ∧ afterUnit (some l) v rest = .ok x := by
  cases s with
  | nil => cases h
  | cons e s =>
      by_cases he : e = '\\'
      · subst he
        simp only [readText, if_true] at h
        cases s with
        | nil => cases h
        | cons f s =>
            by_cases hf : f = 'u'
            · subst hf
              simp only [readText, if_true] at h
              obtain ⟨a, b, c, d, v, rest, rfl, hv, h⟩ := readText_unit_ok h
              exact ⟨a, b, c, d, v, rest, rfl, hv, h⟩
            · simp only [readText, if_neg hf] at h
              cases h
      · simp only [readText, if_neg he] at h
        cases h

/-- What is read from an escape on: the characters after the backslash
stand for one character, and the string goes on behind them. -/
private def Escaped (s cs r : List Char) : Prop :=
  ∃ (head : List Char) (c : Char) (s' cs' : List Char), s = head ++ s'
    ∧ cs = c :: cs' ∧ readText .plain s' = .ok (cs', r)
    ∧ ∀ {source t : List Char}, Spells source t →
      Spells ('\\' :: (head ++ source)) (c :: t)

/-- A numeric escape is a character of its own, or one written as a
pair. -/
private theorem escaped_of_numeric {cs : List Char}
    (h : readText (.hex none 4 0) s = .ok (cs, r)) : Escaped ('u' :: s) cs r := by
  obtain ⟨a, b, c, d, v, rest, rfl, hv, h⟩ := readText_unit_ok h
  unfold afterUnit at h
  -- a trailing unit stands nowhere first, a leading one only before a
  -- trailing one; the others are characters themselves
  cases htrail : isTrail v with
  | true =>
      simp only [htrail, if_true] at h
      cases h
  | false =>
  cases hlead : isLead v with
  | false =>
      simp only [htrail, hlead, Bool.false_eq_true, if_false] at h
      obtain ⟨cs, rfl, h'⟩ := push_eq_ok h
      exact ⟨['u', a, b, c, d], _, rest, cs, rfl, rfl, h',
        fun hsource => .unit hv hlead htrail hsource⟩
  | true =>
      simp only [htrail, hlead, Bool.false_eq_true, if_false, if_true] at h
      obtain ⟨a', b', c', d', v', rest, rfl, hv', h⟩ := readText_paired_ok h
      unfold afterUnit at h
      cases htrail' : isTrail v' with
      | false =>
          simp only [htrail', Bool.false_eq_true, if_false] at h
          cases h
      | true =>
          simp only [htrail', if_true] at h
          obtain ⟨cs, rfl, h'⟩ := push_eq_ok h
          exact ⟨['u', a, b, c, d, '\\', 'u', a', b', c', d'], _, rest, cs,
            rfl, rfl, h', fun hsource => .pair hv hlead hv' htrail' hsource⟩

/-- What is read behind a backslash is an escape: a short one, or a unit or
two. -/
private theorem escaped_of_readText {cs : List Char}
    (h : readText .escape s = .ok (cs, r)) : Escaped s cs r := by
  cases s with
  | nil => cases h
  | cons c s =>
      by_cases hu : c = 'u'
      · subst hu
        simp only [readText, if_true] at h
        exact escaped_of_numeric h
      cases he : escaped? c with
      | none =>
          simp only [readText, if_neg hu, he] at h
          cases h
      | some e =>
          simp only [readText, if_neg hu, he] at h
          obtain ⟨cs, rfl, h'⟩ := push_eq_ok h
          exact ⟨[c], e, s, cs, rfl, rfl, h', fun hsource => .escape he hsource⟩

/-- What is read of a string up to its quote spells the text that is given.
-/
private theorem spells_of_readText (n : Nat) :
    ∀ {s cs r : List Char}, s.length ≤ n →
      readText .plain s = .ok (cs, r) →
      ∃ source, Spells source cs ∧ s = source ++ '"' :: r := by
  -- a character can take several of the text, so the length decreases
  induction n with
  | zero =>
      intro s cs r hn h
      rw [List.length_eq_zero_iff.1 (Nat.le_zero.1 hn)] at h
      cases h
  | succ n ih =>
      intro s cs r hn h
      cases s with
      | nil => cases h
      | cons c s =>
          rw [List.length_cons] at hn
          by_cases hquote : c = '"'
          · subst hquote
            simp only [readText, if_true] at h
            cases h
            exact ⟨[], .nil, rfl⟩
          by_cases hslash : c = '\\'
          · subst hslash
            simp only [readText, if_neg hquote, if_true] at h
            obtain ⟨head, c, s', cs', rfl, rfl, h', hspells⟩ :=
              escaped_of_readText h
            rw [List.length_append] at hn
            obtain ⟨source, hsource, rfl⟩ := ih (by omega) h'
            refine ⟨_, hspells hsource, ?_⟩
            rw [List.cons_append, List.append_assoc]
          by_cases hcontrol : c.toNat < 0x20
          · simp only [readText, if_neg hquote, if_neg hslash,
              if_pos hcontrol] at h
            cases h
          · simp only [readText, if_neg hquote, if_neg hslash,
              if_neg hcontrol] at h
            obtain ⟨cs, rfl, h'⟩ := push_eq_ok h
            obtain ⟨source, hsource, rfl⟩ := ih (by omega) h'
            exact ⟨_, .plain hquote hslash (Nat.not_lt.1 hcontrol) hsource,
              rfl⟩

/-- A short escape stands for its one character. -/
theorem readText_escape {c e : Char} (h : escaped? c = some e)
    (s : List Char) :
    readText .plain ('\\' :: c :: s) = push e (readText .plain s) := by
  have hu : c ≠ 'u' := by
    rintro rfl
    cases h
  show readText .escape (c :: s) = _
  simp only [readText, if_neg hu, h]

/-- The letter of a numeric escape asks for its digits. -/
theorem readText_numeric (s : List Char) :
    readText .plain ('\\' :: 'u' :: s) = readText (.hex none 4 0) s := rfl

/-- And so it does for the second of two units. -/
theorem readText_partner (l : Nat) (s : List Char) :
    readText (.paired l) ('\\' :: 'u' :: s) = readText (.hex (some l) 4 0) s :=
  rfl

/-- The first of two units cannot be the second. -/
theorem not_trail_of_lead {v : Nat} (h : isLead v = true) :
    isTrail v = false := by
  simp only [isLead, isTrail, Bool.and_eq_true, Bool.and_eq_false_iff,
    decide_eq_true_eq, decide_eq_false_iff_not] at h ⊢
  omega

/-- A spelling is read back, whatever follows its quote. -/
private theorem readText_of_spells {source cs : List Char}
    (h : Spells source cs) (r : List Char) :
    readText .plain (source ++ '"' :: r) = .ok (cs, r) := by
  induction h with
  | nil => rfl
  | plain hquote hslash hcontrol _ ih =>
      simp only [List.cons_append, readText, if_neg hquote, if_neg hslash,
        if_neg (Nat.not_lt.2 hcontrol), ih]
      rfl
  | escape he _ ih =>
      rw [List.cons_append, List.cons_append, readText_escape he, ih]
      rfl
  | unit hv hlead htrail _ ih =>
      simp only [List.cons_append]
      rw [readText_numeric, readText_unit _ hv]
      simp only [afterUnit, htrail, hlead, Bool.false_eq_true, if_false, ih]
      rfl
  | pair hv hlead hv' htrail _ ih =>
      simp only [List.cons_append]
      rw [readText_numeric, readText_unit _ hv]
      simp only [afterUnit, not_trail_of_lead hlead, hlead,
        Bool.false_eq_true, if_false, if_true]
      rw [readText_partner, readText_unit _ hv']
      simp only [afterUnit, htrail, if_true, ih]
      rfl

/-- A string is read up to the quote that ends it, and stands for what
is read. -/
theorem readText_eq_ok_iff {cs : List Char} :
    readText .plain s = .ok (cs, r)
      ↔ ∃ source, Spells source cs ∧ s = source ++ '"' :: r := by
  constructor
  · exact spells_of_readText s.length (Nat.le_refl _)
  · rintro ⟨source, h, rfl⟩
    exact readText_of_spells h r

-- ===================================================== strings passed over

/-- A digit of an escape is passed over. -/
private theorem skipText_hex_ok {n : Nat}
    (h : skipText false (n + 1) s = .ok r) :
    ∃ c rest d, s = c :: rest ∧ hexDigit? c = some d
      ∧ skipText false n rest = .ok r := by
  cases s with
  | nil => cases h
  | cons c rest =>
      cases hd : hexDigit? c with
      | none =>
          simp only [skipText, hd, Option.isSome_none, Bool.false_eq_true,
            if_false] at h
          split at h <;> cases h
      | some d =>
          simp only [skipText, hd, Option.isSome_some, if_true] at h
          exact ⟨c, rest, d, rfl, hd, h⟩

/-- What is passed over up to its quote has the form of a string. -/
private theorem form_of_skipText (n : Nat) :
    ∀ {s r : List Char}, s.length ≤ n → skipText false 0 s = .ok r →
      ∃ source, TextForm source ∧ s = source ++ '"' :: r := by
  -- on the length: an escape takes several characters at a time
  induction n with
  | zero =>
      intro s r hn h
      rw [List.length_eq_zero_iff.1 (Nat.le_zero.1 hn)] at h
      cases h
  | succ n ih =>
      intro s r hn h
      cases s with
      | nil => cases h
      | cons c s =>
          rw [List.length_cons] at hn
          by_cases hquote : c = '"'
          · subst hquote
            simp only [skipText, if_true] at h
            cases h
            exact ⟨[], .nil, rfl⟩
          by_cases hslash : c = '\\'
          · subst hslash
            simp only [skipText, if_neg hquote, if_true] at h
            cases s with
            | nil => cases h
            | cons c s =>
                rw [List.length_cons] at hn
                -- an escape is `u` with four hex digits or one known
                -- character
                by_cases hu : c = 'u'
                · subst hu
                  simp only [skipText, if_true] at h
                  obtain ⟨a, s₁, w, rfl, hw, h⟩ := skipText_hex_ok h
                  obtain ⟨b, s₂, x, rfl, hx, h⟩ := skipText_hex_ok h
                  obtain ⟨c, s₃, y, rfl, hy, h⟩ := skipText_hex_ok h
                  obtain ⟨d, s₄, z, rfl, hz, h⟩ := skipText_hex_ok h
                  simp only [List.length_cons] at hn
                  obtain ⟨source, hsource, rfl⟩ := ih (by omega) h
                  exact ⟨_, .unit (by
                    rw [hexValue?_of_digits hw hx hy hz]
                    rfl) hsource, rfl⟩
                · by_cases he : (escaped? c).isSome = true
                  · simp only [skipText, if_neg hu, if_pos he] at h
                    obtain ⟨source, hsource, rfl⟩ := ih (by omega) h
                    exact ⟨_, .escape he hsource, rfl⟩
                  · simp only [skipText, if_neg hu, if_neg he] at h
                    cases h
          by_cases hcontrol : c.toNat < 0x20
          · simp only [skipText, if_neg hquote, if_neg hslash,
              if_pos hcontrol] at h
            cases h
          · simp only [skipText, if_neg hquote, if_neg hslash,
              if_neg hcontrol] at h
            obtain ⟨source, hsource, rfl⟩ := ih (by omega) h
            exact ⟨_, .plain hquote hslash (Nat.not_lt.1 hcontrol) hsource,
              rfl⟩

/-- A short escape is passed over, -/
theorem skipText_escape {c : Char} (h : (escaped? c).isSome = true)
    (s : List Char) :
    skipText false 0 ('\\' :: c :: s) = skipText false 0 s := by
  have hu : c ≠ 'u' := by
    rintro rfl
    cases h
  show skipText true 0 (c :: s) = _
  simp only [skipText, if_neg hu, if_pos h]

/-- a digit of a numeric one is counted, -/
theorem skipText_hex {c : Char} {d : Nat} (h : hexDigit? c = some d)
    (n : Nat) (s : List Char) :
    skipText false (n + 1) (c :: s) = skipText false n s := by
  simp only [skipText, h, Option.isSome_some, if_true]

/-- and so four of them pass it over whole. -/
theorem skipText_numeric {a b c d : Char}
    (h : (hexValue? a b c d).isSome = true) (s : List Char) :
    skipText false 0 ('\\' :: 'u' :: a :: b :: c :: d :: s)
      = skipText false 0 s := by
  obtain ⟨v, hv⟩ := Option.isSome_iff_exists.1 h
  obtain ⟨w, x, y, z, hw, hx, hy, hz, -⟩ := hexValue?_eq_some hv
  show skipText false 4 (a :: b :: c :: d :: s) = _
  rw [skipText_hex hw, skipText_hex hx, skipText_hex hy, skipText_hex hz]

/-- Whatever has the form of a string is passed over, even where it spells
nothing. -/
private theorem skipText_of_form {source : List Char}
    (h : TextForm source) (r : List Char) :
    skipText false 0 (source ++ '"' :: r) = .ok r := by
  induction h with
  | nil => rfl
  | plain hquote hslash hcontrol _ ih =>
      simp only [List.cons_append, skipText, if_neg hquote, if_neg hslash,
        if_neg (Nat.not_lt.2 hcontrol), ih]
  | escape he _ ih =>
      rw [List.cons_append, List.cons_append, skipText_escape he, ih]
  | unit hv _ ih =>
      simp only [List.cons_append]
      rw [skipText_numeric hv, ih]

/-- A string is passed over up to the quote that ends it. -/
theorem skipText_eq_ok_iff :
    skipText false 0 s = .ok r
      ↔ ∃ source, TextForm source ∧ s = source ++ '"' :: r := by
  constructor
  · exact form_of_skipText s.length (Nat.le_refl _)
  · rintro ⟨source, h, rfl⟩
    exact skipText_of_form h r

end PairingHarness.Json
