/-
What the readers of numbers accept.

Both readers take the longest number that a text begins with, so what
they take is a `Numeral`, and what follows it is no more of it
(`Numeral.Ends`). The reader that passes numbers over accepts every
numeral (`skipNumber_eq_ok_iff`); the one that reads them accepts those
that write a number, and gives that number (`readNumber_eq_ok_iff`).

The shape is shown for the first reader only. What the second accepts,
the first passes over to the same place (`skipNumber_of_readNumber`),
and on a numeral the second is computed (`readNumber_unsigned`).

Some numerals write no number: one whose double would be infinite is
refused, and so the two readers accept different texts although they
agree on where a numeral ends. A whole number outside of sixty-four bits
is no fault, it becomes a double; and a zero with a minus sign becomes
one as well, since the whole numbers have only one zero.
-/
import PairingHarness.Proofs.Json.Token

namespace PairingHarness.Json

variable {s r : List Char}

-- ================================================================= digits

/-- No digit comes first. -/
def NoDigit (s : List Char) : Prop :=
  ∀ c ∈ s.head?, isDigit c = false

/-- A text whose first character is no digit. -/
theorem noDigit_cons {c : Char} (h : isDigit c = false) :
    NoDigit (c :: s) := by
  intro d hd
  cases hd
  exact h

/-- What is left after all digits were taken. -/
theorem noDigit_dropWhile (s : List Char) :
    NoDigit (s.dropWhile isDigit) := by
  intro c hc
  rw [Option.mem_def] at hc
  have h := List.head?_dropWhile_not isDigit s
  rw [hc] at h
  simpa using h

/-- Where no digit stands in front there is none to drop. -/
theorem dropWhile_of_noDigit (h : NoDigit s) : s.dropWhile isDigit = s := by
  cases s with
  | nil => rfl
  | cons c s =>
      rw [List.dropWhile_cons_of_neg]
      rw [h c rfl]
      exact Bool.false_ne_true

namespace Digits

/-- The digits that a text begins with. -/
def taken (s : List Char) (h : s.head?.any isDigit = true) : Digits where
  chars := s.takeWhile isDigit
  nonempty := by
    cases s with
    | nil => cases h
    | cons c s =>
        have hc : isDigit c = true := h
        rw [List.takeWhile_cons_of_pos hc]
        exact List.cons_ne_nil _ _
  digits := fun c hc => List.all_eq_true.1 List.all_takeWhile c hc

/-- A text that begins with a digit is the digits taken from it and the
rest. -/
theorem taken_append (s : List Char) (h : s.head?.any isDigit = true) :
    s = (taken s h).chars ++ s.dropWhile isDigit :=
  List.takeWhile_append_dropWhile.symm

variable (ds : Digits)

/-- Digits are at least one. -/
theorem exists_cons : ∃ c cs, ds.chars = c :: cs ∧ isDigit c = true := by
  obtain ⟨c, cs, h⟩ := List.exists_cons_of_ne_nil ds.nonempty
  exact ⟨c, cs, h, ds.digits c (by rw [h]; exact List.mem_cons_self)⟩

theorem head_any (r : List Char) :
    (ds.chars ++ r).head?.any isDigit = true := by
  obtain ⟨c, cs, h, hc⟩ := ds.exists_cons
  rw [h]
  exact hc

/-- Digits in front of something else are taken, all of them, -/
theorem takeWhile (h : NoDigit r) :
    (ds.chars ++ r).takeWhile isDigit = ds.chars := by
  rw [List.takeWhile_append_of_pos ds.digits]
  cases r with
  | nil => exact List.append_nil _
  | cons c r =>
      rw [List.takeWhile_cons_of_neg, List.append_nil]
      rw [h c rfl]
      exact Bool.false_ne_true

/-- and the rest is left. -/
theorem dropWhile (h : NoDigit r) :
    (ds.chars ++ r).dropWhile isDigit = r := by
  rw [List.dropWhile_append_of_pos ds.digits]
  exact dropWhile_of_noDigit h

end Digits

-- ============================================================= significands

/-- Further digits make a number no smaller. -/
theorem le_appendDigits (n : Nat) (cs : List Char) :
    n ≤ appendDigits n cs := by
  induction cs generalizing n with
  | nil => exact Nat.le_refl n
  | cons c cs ih =>
      have h := ih (n * 10 + digitValue c)
      unfold appendDigits at h ⊢
      rw [List.foldl_cons]
      omega

/-- Digits that sixty-four bits hold are all taken. -/
theorem extend_of_le {n : Nat} {cs : List Char}
    (h : appendDigits n cs ≤ Decimal.maxWord64) :
    extend n cs = (appendDigits n cs, 0) := by
  induction cs generalizing n with
  | nil => rfl
  | cons c cs ih =>
      have hv : n * 10 + digitValue c ≤ Decimal.maxWord64 :=
        Nat.le_trans (le_appendDigits _ cs) h
      simp only [extend, if_pos hv]
      exact ih h

/-- Of digits that sixty-four bits do not hold, some are not taken. -/
theorem extend_of_lt {n : Nat} {cs : List Char}
    (hn : n ≤ Decimal.maxWord64)
    (h : Decimal.maxWord64 < appendDigits n cs) : (extend n cs).2 ≠ 0 := by
  induction cs generalizing n with
  | nil => exact absurd hn (Nat.not_le.2 h)
  | cons c cs ih =>
      by_cases hv : n * 10 + digitValue c ≤ Decimal.maxWord64
      · simp only [extend, if_pos hv]
        exact ih hv h
      · simp only [extend, if_neg hv]
        exact Nat.succ_ne_zero _

-- ================================================================ exponents

/-- Digits that pass what is counted are read no further than where they
do. -/
theorem readExponent_digits {cs : List Char}
    (hcs : ∀ c ∈ cs, isDigit c = true) (hr : NoDigit r) {v : Nat}
    (hv : v ≤ maxExponent) :
    if appendDigits v cs ≤ maxExponent then
      readExponent v (cs ++ r) = (some (appendDigits v cs), r)
    else ∃ t, readExponent v (cs ++ r) = (none, t)
      ∧ t.dropWhile isDigit = r := by
  induction cs generalizing v with
  | nil =>
      rw [if_pos (show appendDigits v [] ≤ maxExponent from hv)]
      cases r with
      | nil => rfl
      | cons c r =>
          have hc : ¬isDigit c = true := by
            rw [hr c rfl]
            exact Bool.false_ne_true
          simp only [List.nil_append, readExponent, if_neg hc]
          rfl
  | cons c cs ih =>
      have hc := hcs c List.mem_cons_self
      have hrest : ∀ d ∈ cs, isDigit d = true :=
        fun d hd => hcs d (List.mem_cons_of_mem _ hd)
      -- once a digit takes it past the bound the rest is passed over unread
      by_cases hw : v * 10 + digitValue c ≤ maxExponent
      · simp only [List.cons_append, readExponent, if_pos hc, if_pos hw]
        exact ih hrest hw
      · have hlt : ¬appendDigits v (c :: cs) ≤ maxExponent := fun h =>
          hw (Nat.le_trans (le_appendDigits _ cs) h)
        rw [if_neg hlt]
        refine ⟨cs ++ r, ?_, ?_⟩
        · simp only [List.cons_append, readExponent, if_pos hc, if_neg hw]
        · rw [List.dropWhile_append_of_pos hrest]
          exact dropWhile_of_noDigit hr

/-- What a reader of exponents leaves is what is left of the digits. -/
theorem dropWhile_readExponent (v : Nat) (s : List Char) :
    (readExponent v s).2.dropWhile isDigit = s.dropWhile isDigit := by
  induction s generalizing v with
  | nil => rfl
  | cons c s ih =>
      by_cases hc : isDigit c = true
      · rw [List.dropWhile_cons_of_pos hc]
        by_cases hv : v * 10 + digitValue c ≤ maxExponent
        · simp only [readExponent, if_pos hc, if_pos hv]
          exact ih _
        · simp only [readExponent, if_pos hc, if_neg hv]
      · simp only [readExponent, if_neg hc]

/-- Where an exponent is given, the digits are taken to the last one. -/
theorem readExponent_some {v e : Nat} {s r : List Char}
    (h : readExponent v s = (some e, r)) : r = s.dropWhile isDigit := by
  induction s generalizing v with
  | nil =>
      cases h
      rfl
  | cons c s ih =>
      by_cases hc : isDigit c = true
      · rw [List.dropWhile_cons_of_pos hc]
        by_cases hv : v * 10 + digitValue c ≤ maxExponent
        · simp only [readExponent, if_pos hc, if_pos hv] at h
          exact ih h
        · simp only [readExponent, if_pos hc, if_neg hv] at h
          cases h
      · simp only [readExponent, if_neg hc] at h
        cases h
        rw [List.dropWhile_cons_of_neg hc]

/-- The last step of reading gives a double where the scaled number has one.
-/
theorem finishDouble_toOption (negative : Bool) (m : Nat) (e : Int)
    (r : List Char) :
    (finishDouble negative m e r).toOption
      = (scaled? negative m e).map fun d => (.double d, r) := by
  unfold finishDouble scaled?
  cases Double.ofParts m e <;> rfl

/-- It takes nothing more of the text. -/
theorem finishDouble_ok {negative : Bool} {m : Nat} {e : Int} {v : Number}
    {t : List Char} (h : finishDouble negative m e r = .ok (v, t)) : t = r := by
  unfold finishDouble at h
  cases hp : Double.ofParts m e with
  | none =>
      rw [hp] at h
      cases h
  | some p =>
      rw [hp] at h
      cases h
      rfl

namespace Scale

variable (x : Scale)

/-- The digits of an exponent are found behind its sign. -/
theorem unsigned_eq (r : List Char) :
    (if (x.sign.chars ++ (x.digits.chars ++ r)).head? = some '-'
        ∨ (x.sign.chars ++ (x.digits.chars ++ r)).head? = some '+'
      then (x.sign.chars ++ (x.digits.chars ++ r)).tail
      else x.sign.chars ++ (x.digits.chars ++ r)) = x.digits.chars ++ r := by
  obtain ⟨c, cs, h, hc⟩ := x.digits.exists_cons
  cases hs : x.sign with
  | absent =>
      rw [if_neg]
      · rfl
      · rw [h]
        rintro (h' | h') <;> cases h' <;> exact absurd hc (by decide)
  | plus => rfl
  | minus => rfl

/-- The sign of an exponent is seen at its first character, which a digit
cannot be taken for. -/
theorem down_iff (r : List Char) :
    (x.sign.chars ++ (x.digits.chars ++ r)).head? = some '-'
      ↔ x.sign = .minus := by
  obtain ⟨c, cs, h, hc⟩ := x.digits.exists_cons
  cases hs : x.sign with
  | absent =>
      rw [h]
      constructor
      · intro h'
        cases h'
        exact absurd hc (by decide)
      · intro h'
        cases h'
  | plus => simp [ScaleSign.chars]
  | minus => simp [ScaleSign.chars]

/-- An exponent is passed over up to its last digit. -/
theorem skipExponent_chars (h : NoDigit r) :
    skipExponent (x.sign.chars ++ (x.digits.chars ++ r)) = .ok r := by
  unfold skipExponent
  simp only [x.unsigned_eq r]
  rw [if_pos (x.digits.head_any r), x.digits.dropWhile h]

/-- An exponent is known by its letter. -/
theorem startsExponent_chars (r : List Char) :
    startsExponent (x.chars ++ r) = true := by
  unfold startsExponent chars
  cases x.capital <;> rfl

theorem tail_chars (r : List Char) :
    (x.chars ++ r).tail = x.sign.chars ++ (x.digits.chars ++ r) := by
  unfold chars
  rw [List.cons_append, List.tail_cons, List.append_assoc]

/-- And its letter is no digit, so it ends the digits in front of it. -/
theorem noDigit_chars (r : List Char) : NoDigit (x.chars ++ r) := by
  unfold chars
  cases x.capital <;> exact noDigit_cons rfl

end Scale

/-- An exponent that is passed over was there. -/
theorem scale_of_skipExponent (hstarts : startsExponent s = true)
    (h : skipExponent s.tail = .ok r) :
    ∃ x : Scale, s = x.chars ++ r ∧ NoDigit r := by
  cases s with
  | nil => cases hstarts
  | cons c s =>
      have hletter : c = (if decide (c = 'E') then 'E' else 'e') := by
        simp only [startsExponent, List.head?_cons, Option.some.injEq,
          Bool.or_eq_true, decide_eq_true_eq] at hstarts
        rcases hstarts with rfl | rfl <;> rfl
      rw [List.tail_cons] at h
      -- the sign is whatever the reader steps over before the digits
      have hsign : ∃ sign : ScaleSign, s = sign.chars
          ++ (if s.head? = some '-' ∨ s.head? = some '+' then s.tail
            else s) := by
        cases s with
        | nil => exact ⟨.absent, rfl⟩
        | cons d s =>
            by_cases hm : d = '-'
            · subst hm
              exact ⟨.minus, rfl⟩
            by_cases hp : d = '+'
            · subst hp
              exact ⟨.plus, rfl⟩
            refine ⟨.absent, ?_⟩
            rw [if_neg]
            · rfl
            · rintro (h' | h') <;> cases h' <;> contradiction
      obtain ⟨sign, hs⟩ := hsign
      unfold skipExponent at h
      simp only [] at h
      generalize (if s.head? = some '-' ∨ s.head? = some '+' then s.tail
        else s) = ds at h hs
      by_cases hds : ds.head?.any isDigit = true
      · rw [if_pos hds] at h
        cases h
        refine ⟨⟨decide (c = 'E'), sign, .taken ds hds⟩, ?_,
          noDigit_dropWhile ds⟩
        unfold Scale.chars
        rw [← hletter, List.cons_append, List.append_assoc,
          ← Digits.taken_append ds hds, ← hs]
      · rw [if_neg hds] at h
        cases h

-- ================================================================= numerals

namespace Numeral

variable (n : Numeral)

/-- Nothing of what follows could be more of the number. -/
def Ends (r : List Char) : Prop :=
  ∀ c ∈ r.head?, isDigit c = false
    ∧ (n.scale = none → (c ≠ 'e' ∧ c ≠ 'E')
      ∧ (n.fraction = none → c ≠ '.'))

variable {n}

/-- No digit follows a whole numeral, -/
theorem Ends.noDigit (h : n.Ends r) : NoDigit r :=
  fun c hc => (h c hc).1

/-- and no exponent, unless it has one, -/
theorem Ends.noScale (h : n.Ends r) (hs : n.scale = none) :
    startsExponent r = false := by
  cases r with
  | nil => rfl
  | cons c r =>
      obtain ⟨-, hc⟩ := h c rfl
      simp [startsExponent, (hc hs).1]

/-- and no point, unless it has a fraction or an exponent already. -/
theorem Ends.noPoint (h : n.Ends r) (hs : n.scale = none)
    (hf : n.fraction = none) : r.head? ≠ some '.' := by
  cases r with
  | nil => simp
  | cons c r =>
      obtain ⟨-, hc⟩ := h c rfl
      simp [(hc hs).2 hf]

/-- No point follows where there is no fraction. -/
theorem Ends.head_scaleChars (h : n.Ends r) (hf : n.fraction = none) :
    (scaleChars n.scale ++ r).head? ≠ some '.' := by
  cases hs : n.scale with
  | none => exact h.noPoint hs hf
  | some x =>
      show (x.chars ++ r).head? ≠ some '.'
      unfold Scale.chars
      cases x.capital <;> simp

/-- What follows the whole part. -/
def tail (n : Numeral) : List Char :=
  fractionChars n.fraction ++ scaleChars n.scale

/-- What may follow the digits of a fraction is no digit. -/
theorem noDigit_scaleChars (h : n.Ends r) :
    NoDigit (scaleChars n.scale ++ r) := by
  cases hs : n.scale with
  | none => exact h.noDigit
  | some x => exact x.noDigit_chars r

/-- What may follow the digits in front of the point is none either. -/
theorem noDigit_tail (h : n.Ends r) : NoDigit (n.tail ++ r) := by
  unfold tail
  cases hf : n.fraction with
  | none => exact noDigit_scaleChars h
  | some ds => exact noDigit_cons rfl

/-- A numeral is its digits in front of the point and what comes behind
them. -/
theorem unsigned_append (n : Numeral) (r : List Char) :
    n.unsigned ++ r = n.whole.chars ++ (n.tail ++ r) := by
  unfold unsigned tail
  rw [List.append_assoc]

/-- What is seen of the whole part: a digit, and none behind a zero. -/
theorem exists_cons (n : Numeral) {r : List Char} (h : n.Ends r) :
    ∃ c after, n.unsigned ++ r = c :: after ∧ isDigit c = true
      ∧ ¬(c = '0' ∧ after.head?.any isDigit = true) := by
  obtain ⟨c, cs, hw, hc⟩ := n.whole.exists_cons
  refine ⟨c, cs ++ (n.tail ++ r), ?_, hc, ?_⟩
  · rw [unsigned_append, hw]
    rfl
  · rintro ⟨rfl, hafter⟩
    have hone := n.leading (by rw [hw]; rfl)
    rw [hw] at hone
    cases hone
    rw [List.nil_append, Option.any_eq_true] at hafter
    obtain ⟨d, hd, hdigit⟩ := hafter
    rw [noDigit_tail h d hd] at hdigit
    cases hdigit

end Numeral

-- ======================================================= passing them over

/-- The exponent behind digits, if there is one, passed over. -/
private theorem skip_scaleChars {scale : Option Scale} (hr : NoDigit r)
    (hscale : scale = none → startsExponent r = false) :
    (if startsExponent (Numeral.scaleChars scale ++ r) = true then
        skipExponent (Numeral.scaleChars scale ++ r).tail
      else .ok (Numeral.scaleChars scale ++ r)) = .ok r := by
  cases scale with
  | none =>
      show (if startsExponent r = true then skipExponent r.tail
        else .ok r) = _
      rw [hscale rfl]
      rfl
  | some x =>
      show (if startsExponent (x.chars ++ r) = true then
        skipExponent (x.chars ++ r).tail else .ok (x.chars ++ r)) = _
      rw [if_pos (x.startsExponent_chars r), x.tail_chars,
        x.skipExponent_chars hr]

/-- A numeral is passed over to its end and no further. -/
private theorem skipNumber_unsigned {n : Numeral} (h : n.Ends r) :
    skipNumber (n.unsigned ++ r) = .ok r := by
  obtain ⟨c, after, hs, hc, hzero⟩ := n.exists_cons h
  unfold skipNumber
  have hrest : (n.unsigned ++ r).dropWhile isDigit = n.tail ++ r := by
    rw [n.unsigned_append, n.whole.dropWhile (Numeral.noDigit_tail h)]
  rw [hrest, hs]
  have hany : (c :: after).head?.any isDigit = true := hc
  have hzero' : ¬((c :: after).head? = some '0'
      ∧ (c :: after).tail.head?.any isDigit = true) := by
    rintro ⟨h₀, h₁⟩
    cases h₀
    exact hzero ⟨rfl, h₁⟩
  rw [hany, if_neg hzero']
  simp only [Bool.not_true, Bool.false_eq_true, if_false]
  unfold Numeral.tail
  cases hf : n.fraction with
  | some ds =>
      have hpoint : (Numeral.fractionChars (some ds)
          ++ Numeral.scaleChars n.scale ++ r).head? = some '.' := rfl
      rw [if_pos hpoint]
      show skipFraction (ds.chars ++ Numeral.scaleChars n.scale ++ r) = _
      rw [List.append_assoc]
      unfold skipFraction
      rw [if_pos (ds.head_any _)]
      simp only [ds.dropWhile (Numeral.noDigit_scaleChars h)]
      exact skip_scaleChars h.noDigit h.noScale
  | none =>
      show (if (Numeral.scaleChars n.scale ++ r).head? = some '.' then _
        else if startsExponent (Numeral.scaleChars n.scale ++ r) = true then
          skipExponent (Numeral.scaleChars n.scale ++ r).tail
        else .ok (Numeral.scaleChars n.scale ++ r)) = _
      rw [if_neg (h.head_scaleChars hf)]
      exact skip_scaleChars h.noDigit h.noScale

/-- An exponent that may come behind digits, passed over. -/
private theorem scale_of_rest
    (h : (if startsExponent s = true then skipExponent s.tail else .ok s)
      = .ok r) (hs : NoDigit s) :
    ∃ scale : Option Scale, s = Numeral.scaleChars scale ++ r ∧ NoDigit r
      ∧ (scale = none → startsExponent r = false) := by
  cases hstarts : startsExponent s with
  | true =>
      rw [hstarts, if_pos rfl] at h
      obtain ⟨x, hx, hr⟩ := scale_of_skipExponent hstarts h
      exact ⟨some x, hx, hr, fun h' => nomatch h'⟩
  | false =>
      rw [hstarts] at h
      cases h
      exact ⟨none, rfl, hs, fun _ => hstarts⟩

/-- A fraction behind its point, and an exponent, passed over. -/
private theorem digits_of_skipFraction (h : skipFraction s = .ok r) :
    ∃ (ds : Digits) (scale : Option Scale),
      s = ds.chars ++ (Numeral.scaleChars scale ++ r) ∧ NoDigit r
        ∧ (scale = none → startsExponent r = false) := by
  unfold skipFraction at h
  by_cases hds : s.head?.any isDigit = true
  · rw [if_pos hds] at h
    obtain ⟨scale, hrest, hr, hscale⟩ := scale_of_rest h (noDigit_dropWhile s)
    refine ⟨.taken s hds, scale, ?_, hr, hscale⟩
    rw [← hrest, ← Digits.taken_append s hds]
  · rw [if_neg hds] at h
    cases h

/-- A zero in front is alone where no digit may come behind it. -/
private theorem taken_leading {hany : s.head?.any isDigit = true}
    (hzero : ¬(s.head? = some '0' ∧ s.tail.head?.any isDigit = true))
    (h : (Digits.taken s hany).chars.head? = some '0') :
    (Digits.taken s hany).chars = ['0'] := by
  cases s with
  | nil => cases hany
  | cons c s =>
      have hc : isDigit c = true := hany
      change ((c :: s).takeWhile isDigit).head? = some '0' at h
      show (c :: s).takeWhile isDigit = ['0']
      rw [List.takeWhile_cons_of_pos hc] at h ⊢
      cases h
      cases s with
      | nil => rfl
      | cons d s =>
          rw [List.takeWhile_cons_of_neg]
          exact fun hd => hzero ⟨rfl, hd⟩

/-- What the reader stops at does not go on with the numeral. -/
private theorem ends_of_rest {n : Numeral} (hr : NoDigit r)
    (hscale : n.scale = none → startsExponent r = false)
    (hpoint : n.scale = none → n.fraction = none → r.head? ≠ some '.') :
    n.Ends r := by
  intro c hc
  refine ⟨hr c hc, fun hs => ⟨?_, fun hf hdot => ?_⟩⟩
  · have hstarts := hscale hs
    rw [Option.mem_def] at hc
    simp only [startsExponent, hc, Bool.or_eq_false_iff,
      decide_eq_false_iff_not, Option.some.injEq] at hstarts
    exact hstarts
  · subst hdot
    exact hpoint hs hf hc

/-- What is passed over is a numeral, with whatever sign stood in front of
it. -/
private theorem numeral_of_skipNumber (negative : Bool)
    (h : skipNumber s = .ok r) :
    ∃ n : Numeral, n.negative = negative ∧ s = n.unsigned ++ r ∧ n.Ends r := by
  unfold skipNumber at h
  by_cases hany : s.head?.any isDigit = true
  case neg =>
    rw [Bool.not_eq_true] at hany
    rw [hany] at h
    cases h
  by_cases hzero : s.head? = some '0' ∧ s.tail.head?.any isDigit = true
  case pos =>
    rw [hany, if_pos hzero] at h
    cases h
  rw [hany, if_neg hzero] at h
  simp only [Bool.not_true, Bool.false_eq_true, if_false] at h
  have hwhole := Digits.taken_append s hany
  have hleading := @taken_leading s hany hzero
  -- what follows the whole part
  have hnodigit := noDigit_dropWhile s
  generalize s.dropWhile isDigit = rest at h hwhole hnodigit
  by_cases hpoint : rest.head? = some '.'
  · rw [if_pos hpoint] at h
    cases rest with
    | nil => cases hpoint
    | cons c rest =>
        cases hpoint
        obtain ⟨ds, scale, hrest, hr, hscale⟩ := digits_of_skipFraction h
        refine ⟨⟨negative, .taken s hany, hleading, some ds, scale⟩, rfl, ?_,
          ends_of_rest hr hscale fun _ h' => nomatch h'⟩
        show s = (Digits.taken s hany).chars
          ++ ('.' :: ds.chars ++ Numeral.scaleChars scale) ++ r
        rw [List.tail_cons] at hrest
        rw [List.append_assoc, List.cons_append, List.cons_append,
          List.append_assoc, ← hrest]
        exact hwhole
  · rw [if_neg hpoint] at h
    obtain ⟨scale, hrest, hr, hscale⟩ := scale_of_rest h hnodigit
    refine ⟨⟨negative, .taken s hany, hleading, none, scale⟩, rfl, ?_,
      ends_of_rest hr hscale fun hs _ => ?_⟩
    · show s = (Digits.taken s hany).chars
        ++ ([] ++ Numeral.scaleChars scale) ++ r
      rw [List.nil_append, List.append_assoc, ← hrest]
      exact hwhole
    · -- nothing was passed over behind the whole part
      have hs : scale = none := hs
      rw [hs] at hrest
      rw [hrest] at hpoint
      exact hpoint

/-- A number is passed over as far as it goes, whatever its size. -/
theorem skipNumber_eq_ok_iff (negative : Bool) :
    skipNumber s = .ok r ↔ ∃ n : Numeral,
      n.negative = negative ∧ s = n.unsigned ++ r ∧ n.Ends r := by
  constructor
  · exact numeral_of_skipNumber negative
  · rintro ⟨n, -, rfl, h⟩
    exact skipNumber_unsigned h

-- =============================================================== reading them

variable {negative : Bool} {m : Nat} {e : Int} {v : Number}

/-- What is read as an exponent is passed over to the same place. -/
theorem skipExponent_of_readScaled
    (h : readScaled negative m e s = .ok (v, r)) : skipExponent s = .ok r := by
  unfold readScaled at h
  unfold skipExponent
  simp only [] at h ⊢
  generalize (if s.head? = some '-' ∨ s.head? = some '+' then s.tail
    else s) = ds at h ⊢
  cases ds with
  | nil => cases h
  | cons c cs =>
      by_cases hc : isDigit c = true
      case neg =>
        rw [Bool.not_eq_true] at hc
        simp only [hc] at h
        cases h
      have hany : (c :: cs).head?.any isDigit = true := hc
      rw [if_pos hany]
      simp only [hc, Bool.not_true, Bool.false_eq_true, if_false] at h
      cases hread : readExponent 0 (c :: cs) with
      | mk o t =>
          cases o with
          | some k =>
              simp only [hread] at h
              rw [finishDouble_ok h, readExponent_some hread]
          | none =>
              simp only [hread] at h
              split at h
              · cases h
              · cases h
                have ht := dropWhile_readExponent 0 (c :: cs)
                rw [hread] at ht
                rw [← ht]

/-- And so is a fraction, with the exponent behind it. -/
theorem skipFraction_of_readFraction
    (h : readFraction negative m e s = .ok (v, r)) :
    skipFraction s = .ok r := by
  unfold readFraction at h
  unfold skipFraction
  cases s with
  | nil => cases h
  | cons c s =>
      by_cases hc : isDigit c = true
      case neg =>
        simp only [List.takeWhile_cons_of_neg hc] at h
        cases h
      have hany : (c :: s).head?.any isDigit = true := hc
      rw [if_pos hany]
      simp only [List.takeWhile_cons_of_pos hc, List.isEmpty_cons,
        Bool.false_eq_true, if_false] at h
      split at h
      case isTrue hstarts =>
        simp only [hstarts, if_true]
        exact skipExponent_of_readScaled h
      case isFalse hstarts =>
        simp only [hstarts]
        rw [finishDouble_ok h]
        rfl

/-- What is read as a number is passed over to the same place. -/
theorem skipNumber_of_readNumber (h : readNumber negative s = .ok (v, r)) :
    skipNumber s = .ok r := by
  cases s with
  | nil => cases h
  | cons c s =>
      unfold skipNumber
      -- both readers ask the same questions in the same order: a digit, no
      -- leading zero, a point, an exponent
      by_cases hc : isDigit c = true
      case neg =>
        rw [Bool.not_eq_true] at hc
        simp only [readNumber, hc] at h
        cases h
      have hany : (c :: s).head?.any isDigit = true := hc
      by_cases hzero : c = '0' ∧ s.head?.any isDigit = true
      case pos =>
        simp only [readNumber, hc, if_pos hzero] at h
        cases h
      have hzero' : ¬((c :: s).head? = some '0'
          ∧ (c :: s).tail.head?.any isDigit = true) := by
        rintro ⟨h₀, h₁⟩
        cases h₀
        exact hzero ⟨rfl, h₁⟩
      rw [hany, if_neg hzero']
      simp only [readNumber, hc, if_neg hzero, Bool.not_true,
        Bool.false_eq_true, if_false] at h ⊢
      split at h
      case isTrue hpoint =>
        rw [if_pos hpoint]
        exact skipFraction_of_readFraction h
      case isFalse hpoint =>
      rw [if_neg hpoint]
      split at h
      case isTrue hstarts =>
        rw [if_pos hstarts]
        exact skipExponent_of_readScaled h
      case isFalse hstarts =>
      rw [if_neg hstarts]
      split at h
      case isTrue =>
        cases h
        rfl
      case isFalse => rw [finishDouble_ok h]

-- ------------------------------------------------- the number that is read

/-- On a written exponent the reader comes to the double that the exponent
calls for, if there is one. -/
theorem readScaled_chars (x : Scale) (hr : NoDigit r) :
    (readScaled negative m e
        (x.sign.chars ++ (x.digits.chars ++ r))).toOption
      = (x.double? negative m e).map fun d => (.double d, r) := by
  obtain ⟨c, cs, hds, hc⟩ := x.digits.exists_cons
  unfold readScaled Scale.double?
  simp only [x.unsigned_eq r]
  simp only [x.down_iff r]
  rw [hds, List.cons_append]
  simp only [hc, Bool.not_true, Bool.false_eq_true, if_false]
  have hread := readExponent_digits x.digits.digits hr (v := 0)
    (Nat.zero_le _)
  rw [hds, List.cons_append] at hread
  have hvalue : x.digits.value = appendDigits 0 (c :: cs) := by
    unfold Digits.value
    rw [hds]
  rw [hvalue]
  by_cases hmax : appendDigits 0 (c :: cs) ≤ maxExponent
  · rw [if_pos hmax] at hread ⊢
    rw [hread]
    exact finishDouble_toOption negative m _ r
  · rw [if_neg hmax] at hread ⊢
    obtain ⟨t, ht, hrest⟩ := hread
    rw [ht]
    -- an exponent out of range is a fault unless the number is zero either
    -- way
    by_cases hbig : m ≠ 0 ∧ x.sign ≠ .minus
    · rw [if_pos hbig]
      simp only [Bool.not_eq_true', decide_eq_false_iff_not]
      rw [if_pos hbig]
      rfl
    · rw [if_neg hbig]
      simp only [Bool.not_eq_true', decide_eq_false_iff_not]
      rw [if_neg hbig, hrest]
      rfl

/-- A significand is finished by the exponent behind it, if there is
one. -/
private theorem finish_scaleChars {scale : Option Scale} (hr : NoDigit r)
    (hscale : scale = none → startsExponent r = false) :
    (if startsExponent (Numeral.scaleChars scale ++ r) = true then
        readScaled negative m e (Numeral.scaleChars scale ++ r).tail
      else finishDouble negative m e (Numeral.scaleChars scale ++ r)).toOption
      = (match scale with
          | some x => x.double? negative m e
          | none => scaled? negative m e).map fun d => (.double d, r) := by
  cases scale with
  | none =>
      show (if startsExponent r = true then readScaled negative m e r.tail
        else finishDouble negative m e r).toOption = _
      rw [hscale rfl]
      exact finishDouble_toOption negative m e r
  | some x =>
      show (if startsExponent (x.chars ++ r) = true then
        readScaled negative m e (x.chars ++ r).tail
        else finishDouble negative m e (x.chars ++ r)).toOption = _
      rw [if_pos (x.startsExponent_chars r), x.tail_chars]
      exact readScaled_chars x hr

/-- Nothing is nearest to nothing. -/
theorem nearest_zero (den : Nat) : Double.nearest 0 den = 0 := by
  unfold Double.nearest Double.roundDiv
  simp

/-- A whole number without an exponent, read. -/
private theorem whole_value? (n : Numeral) (r : List Char)
    (hf : n.fraction = none) (hx : n.scale = none) :
    (if (extend 0 n.whole.chars).2 = 0 then
        .ok (wholeNumber n.negative (extend 0 n.whole.chars).1, r)
      else finishDouble n.negative (extend 0 n.whole.chars).1
        (extend 0 n.whole.chars).2 r : Except Fault (Number × List Char)).toOption
      = n.value?.map fun v => (v, r) := by
  have hparts : n.parts
      = ((extend 0 n.whole.chars).1, ((extend 0 n.whole.chars).2 : Int)) := by
    unfold Numeral.parts
    rw [hf]
  unfold Numeral.value? Numeral.integer? Numeral.double?
  rw [hf, hx, hparts]
  simp only [true_and, Int.natCast_eq_zero]
  -- a whole that fits 64 bits has lost no digit; a longer one is a double
  by_cases hle : n.whole.value ≤ Decimal.maxWord64
  · have hext : extend 0 n.whole.chars = (n.whole.value, 0) :=
      extend_of_le hle
    rw [hext, if_pos rfl, if_pos rfl]
    unfold wholeNumber
    cases n.negative with
    | false =>
        simp only [Bool.false_eq_true, if_false, Bool.not_false, if_true]
        rw [if_pos hle]
        rfl
    | true =>
        simp only [if_true, Bool.not_true, Bool.false_eq_true, if_false]
        -- minus zero is a double, as is what no signed word holds
        by_cases hzero : n.whole.value = 0
        · rw [hzero, nearest_zero]
          rfl
        · by_cases hfits : n.whole.value ≤ Nat.pow 2 63
          · rw [if_neg hzero, if_pos hfits, if_pos ⟨hzero, hfits⟩]
            rfl
          · rw [if_neg hzero, if_neg hfits, if_neg fun h => hfits h.2]
            rfl
  · have hext : (extend 0 n.whole.chars).2 ≠ 0 :=
      extend_of_lt (Nat.zero_le _) (Nat.lt_of_not_le hle)
    have hbig : ¬(n.whole.value ≠ 0 ∧ n.whole.value ≤ Nat.pow 2 63) := by
      rintro ⟨-, h⟩
      exact hle (Nat.le_trans h (by decide))
    rw [if_neg hext, if_neg hext, if_neg hle, if_neg hbig,
      finishDouble_toOption]
    simp only [ite_self, Option.map_map]
    rfl

/-- On a numeral the reader gives the number that it writes. -/
theorem readNumber_unsigned {n : Numeral} (h : n.Ends r) :
    (readNumber n.negative (n.unsigned ++ r)).toOption
      = n.value?.map fun v => (v, r) := by
  obtain ⟨c, after, hs, hc, hzero⟩ := n.exists_cons h
  have htake : (n.unsigned ++ r).takeWhile isDigit = n.whole.chars := by
    rw [n.unsigned_append, n.whole.takeWhile (Numeral.noDigit_tail h)]
  have hdrop : (n.unsigned ++ r).dropWhile isDigit = n.tail ++ r := by
    rw [n.unsigned_append, n.whole.dropWhile (Numeral.noDigit_tail h)]
  rw [hs] at htake hdrop ⊢
  simp only [readNumber, hc, Bool.not_true, Bool.false_eq_true, if_false,
    if_neg hzero, htake, hdrop]
  unfold Numeral.tail
  cases hf : n.fraction with
  -- after a fraction the number is a double, with a scale or without one
  | some ds =>
      have hpoint : (Numeral.fractionChars (some ds)
          ++ Numeral.scaleChars n.scale ++ r).head? = some '.' := rfl
      rw [if_pos hpoint]
      show (readFraction n.negative (extend 0 n.whole.chars).1
        (extend 0 n.whole.chars).2
        (ds.chars ++ Numeral.scaleChars n.scale ++ r)).toOption = _
      have hnodigit := Numeral.noDigit_scaleChars h
      have hnonempty : ds.chars.isEmpty = false := by
        obtain ⟨d, cs, hd, -⟩ := ds.exists_cons
        rw [hd]
        rfl
      rw [List.append_assoc]
      unfold readFraction
      simp only [ds.takeWhile hnodigit, ds.dropWhile hnodigit, hnonempty,
        Bool.false_eq_true, if_false]
      rw [finish_scaleChars h.noDigit h.noScale]
      unfold Numeral.value? Numeral.integer? Numeral.double? Numeral.parts
      rw [hf]
      simp only [reduceCtorEq, false_and, if_false, Option.map_map]
      rfl
  -- no point follows, so an exponent or the end decides
  | none =>
      show (if (Numeral.scaleChars n.scale ++ r).head? = some '.' then _
        else if startsExponent (Numeral.scaleChars n.scale ++ r) = true then
          readScaled n.negative (extend 0 n.whole.chars).1
            (extend 0 n.whole.chars).2 (Numeral.scaleChars n.scale ++ r).tail
        else if (extend 0 n.whole.chars).2 = 0 then
          .ok (wholeNumber n.negative (extend 0 n.whole.chars).1,
            Numeral.scaleChars n.scale ++ r)
        else finishDouble n.negative (extend 0 n.whole.chars).1
          (extend 0 n.whole.chars).2
          (Numeral.scaleChars n.scale ++ r)).toOption = _
      rw [if_neg (h.head_scaleChars hf)]
      cases hx : n.scale with
      | none =>
          show (if startsExponent r = true then _
            else _ : Except Fault (Number × List Char)).toOption = _
          rw [h.noScale hx]
          exact whole_value? n r hf hx
      | some x =>
          show (if startsExponent (x.chars ++ r) = true then
              readScaled _ _ _ (x.chars ++ r).tail
            else _ : Except Fault (Number × List Char)).toOption = _
          rw [if_pos (x.startsExponent_chars r), x.tail_chars,
            readScaled_chars x h.noDigit]
          unfold Numeral.value? Numeral.integer? Numeral.double?
            Numeral.parts
          rw [hf, hx]
          simp only [Option.map_map]
          rfl

/-- A number is read as far as it goes, and it is the number that is
written. -/
theorem readNumber_eq_ok_iff :
    readNumber negative s = .ok (v, r) ↔ ∃ n : Numeral,
      n.negative = negative ∧ s = n.unsigned ++ r ∧ n.Ends r
        ∧ n.value? = some v := by
  constructor
  · intro h
    obtain ⟨n, rfl, rfl, hends⟩ :=
      (skipNumber_eq_ok_iff negative).1 (skipNumber_of_readNumber h)
    refine ⟨n, rfl, rfl, hends, ?_⟩
    have hvalue := readNumber_unsigned hends
    rw [h] at hvalue
    cases hv : n.value? with
    | none =>
        rw [hv] at hvalue
        cases hvalue
    | some w =>
        rw [hv] at hvalue
        cases hvalue
        rfl
  · rintro ⟨n, rfl, rfl, hends, hv⟩
    have hvalue := readNumber_unsigned hends
    rw [hv] at hvalue
    cases hread : readNumber n.negative (n.unsigned ++ r) with
    | error f =>
        rw [hread] at hvalue
        cases hvalue
    | ok x =>
        rw [hread] at hvalue
        cases hvalue
        rfl

-- ================================================================= signs

/-- A numeral with its sign, the sign having been read before it. -/
theorem Numeral.chars_append (n : Numeral) (r : List Char) :
    n.chars ++ r
      = if n.negative then '-' :: (n.unsigned ++ r) else n.unsigned ++ r := by
  unfold chars
  cases n.negative <;> rfl

/-- What is read as a number behind its sign is a numeral with it. -/
theorem signed_of_readNumber (h : readNumber negative s = .ok (v, r)) :
    ∃ n : Numeral, (if negative then '-' :: s else s) = n.chars ++ r
      ∧ n.value? = some v := by
  obtain ⟨n, rfl, rfl, -, hv⟩ := readNumber_eq_ok_iff.1 h
  exact ⟨n, (n.chars_append r).symm, hv⟩

/-- And so is what is passed over as one. -/
theorem signed_of_skipNumber (negative : Bool) (h : skipNumber s = .ok r) :
    ∃ n : Numeral, (if negative then '-' :: s else s) = n.chars ++ r := by
  obtain ⟨n, rfl, rfl, -⟩ := (skipNumber_eq_ok_iff negative).1 h
  exact ⟨n, (n.chars_append r).symm⟩

end PairingHarness.Json
