/-
What reading a number comes to.

Reading keeps the value of the digits read so far and stops at the first
character that decides. So it either takes all characters or stops behind
digits whose value is still within the bound (`readOn_ends`), and since
further digits only make a value greater, it takes them all exactly where
they are digits and their whole value is within the bound
(`read_eq_ok_iff`). Otherwise the fault is the one that the character it
stops at stands for (`read_eq_error_iff`). The decimal numeral of a number
has that number for its value (`read_toDigits`).

The induction is on the characters, with the value so far as the
invariant; the bound enters only in the last lemma of that part.
`Writes` and `Meets` then say what a text is without any reading, one
for what is read and one for what is not, and they leave no third case
(`writes_or_meets`), so the two statements about reading are iffs.
Everything is for any bound: the limits of settings, the numbers of
processes and the ports are instances.
-/
import PairingHarness.Decimal

namespace PairingHarness.Decimal

variable {bound n : Nat} {c : Char} {cs before rest : List Char}

-- ====================================================== one character

/-- The value of a digit is how far it stands behind the zero. -/
theorem digit?_of_isDigit (h : c.isDigit = true) :
    digit? c = some (c.toNat - '0'.toNat) := by
  obtain ⟨hlow, hhigh⟩ := Char.isDigit_iff_toNat.1 h
  exact if_pos ⟨hlow, hhigh⟩

/-- No other character has a value. -/
theorem digit?_of_not_isDigit (h : c.isDigit = false) :
    digit? c = none := by
  refine if_neg fun hrange => ?_
  rw [Char.isDigit_iff_toNat.2 hrange] at h
  cases h

/-- A sign is no digit, so a numeral with a sign in front is known by its
first character. -/
theorem plus_ne_of_isDigit (h : c.isDigit = true) : c ≠ '+' := by
  rintro rfl
  exact absurd h (by decide)

-- ============================================================= digits

/-- Further digits make no value less. -/
theorem le_ofDigitChars (n : Nat) (cs : List Char) :
    n ≤ Nat.ofDigitChars 10 cs n := by
  induction cs generalizing n with
  | nil => exact Nat.le_refl n
  | cons c cs ih =>
      have hstep := ih (10 * n + (c.toNat - '0'.toNat))
      rw [Nat.ofDigitChars_cons]
      omega

/-- A further digit at the end multiplies by ten and adds its value, which
is the step that reading does as well. -/
theorem ofDigitChars_concat (n : Nat) (cs : List Char) (c : Char) :
    Nat.ofDigitChars 10 (cs ++ [c]) n
      = 10 * Nat.ofDigitChars 10 cs n + (c.toNat - '0'.toNat) := by
  rw [Nat.ofDigitChars_append, Nat.ofDigitChars_cons, Nat.ofDigitChars_nil]

/-- Digits are read, and the rest after them, while their value is within
the bound. -/
theorem readOn_append (hdigits : ∀ c ∈ before, c.isDigit = true)
    (hle : Nat.ofDigitChars 10 before n ≤ bound) :
    readOn bound n (before ++ rest)
      = readOn bound (Nat.ofDigitChars 10 before n) rest := by
  induction before generalizing n with
  | nil => rfl
  | cons c before ih =>
      obtain ⟨hc, hrest⟩ := List.forall_mem_cons.1 hdigits
      rw [Nat.ofDigitChars_cons] at hle ⊢
      have hn : n * 10 + (c.toNat - '0'.toNat) ≤ bound := by
        have hmore := le_ofDigitChars
          (10 * n + (c.toNat - '0'.toNat)) before
        omega
      rw [List.cons_append, readOn, digit?_of_isDigit hc]
      dsimp only
      rw [if_pos hn, Nat.mul_comm n 10, ih hrest hle]

/-- A character that is no digit ends the reading, whatever comes after it.
-/
theorem readOn_cons_of_not_isDigit (h : c.isDigit = false) :
    readOn bound n (c :: cs) = .error .invalidDigit := by
  rw [readOn, digit?_of_not_isDigit h]

/-- So does a digit that takes the value past the bound: the rest is not
looked at, and even a character that is no digit comes too late. -/
theorem readOn_cons_of_lt (h : c.isDigit = true)
    (hlt : bound < 10 * n + (c.toNat - '0'.toNat)) :
    readOn bound n (c :: cs) = .error .tooLarge := by
  rw [readOn, digit?_of_isDigit h]
  dsimp only
  rw [if_neg (by omega)]

/-- Either all are digits that come to no more than the bound, or after
some such digits there is a character that is none, or one with which the
bound is passed. -/
theorem readOn_ends (hn : n ≤ bound) (cs : List Char) :
    ((∀ c ∈ cs, c.isDigit = true) ∧ Nat.ofDigitChars 10 cs n ≤ bound)
      ∨ ∃ before c after, cs = before ++ c :: after
        ∧ (∀ d ∈ before, d.isDigit = true)
        ∧ Nat.ofDigitChars 10 before n ≤ bound
        ∧ (c.isDigit = false
          ∨ c.isDigit = true
            ∧ bound < Nat.ofDigitChars 10 (before ++ [c]) n) := by
  -- on the characters: the value so far is within the bound all along
  induction cs generalizing n with
  | nil => exact .inl ⟨by simp, hn⟩
  | cons c cs ih =>
      cases hc : c.isDigit with
      | false => exact .inr ⟨[], c, cs, rfl, by simp, hn, .inl hc⟩
      | true =>
          by_cases hle : 10 * n + (c.toNat - '0'.toNat) ≤ bound
          · rcases ih hle with ⟨hall, hvalue⟩ |
              ⟨before, d, after, rfl, hbefore, hvalue, hd⟩
            · exact .inl ⟨List.forall_mem_cons.2 ⟨hc, hall⟩, hvalue⟩
            · exact .inr ⟨c :: before, d, after, rfl,
                List.forall_mem_cons.2 ⟨hc, hbefore⟩, hvalue, hd⟩
          · exact .inr ⟨[], c, cs, rfl, by simp, hn,
              .inr ⟨hc, Nat.lt_of_not_le hle⟩⟩

-- =============================================================== sign

/-- What stands behind the sign, if there is one. -/
def behindSign : List Char → List Char
  | '+' :: cs => cs
  | cs => cs

theorem behindSign_of_ne (h : c ≠ '+') (cs : List Char) :
    behindSign (c :: cs) = c :: cs := by
  unfold behindSign
  split
  · next heq => exact absurd (List.cons.inj heq).1 h
  · rfl

/-- What stands behind a sign, or behind none, is what was put there, as
long as it begins with a digit. -/
theorem behindSign_append {sign : List Char}
    (hsign : sign = [] ∨ sign = ['+'])
    (hhead : ∀ c ∈ cs.head?, c.isDigit = true) :
    behindSign (sign ++ cs) = cs := by
  rcases hsign with rfl | rfl
  · cases cs with
    | nil => rfl
    | cons c cs => exact behindSign_of_ne (plus_ne_of_isDigit (hhead c rfl)) cs
  · rfl

/-- Every text is a sign or nothing and what stands behind it. -/
theorem exists_sign (cs : List Char) :
    ∃ sign, (sign = [] ∨ sign = ['+']) ∧ cs = sign ++ behindSign cs := by
  unfold behindSign
  split
  · exact ⟨['+'], .inr rfl, rfl⟩
  · exact ⟨[], .inl rfl, rfl⟩

/-- Nothing stands behind the sign of a text that is empty or a sign alone:
such a text is no numeral, and it is told as an empty one. -/
theorem behindSign_eq_nil_iff : behindSign cs = [] ↔ cs = [] ∨ cs = ['+'] := by
  unfold behindSign
  split
  · simp
  · next h =>
    constructor
    · exact .inl
    · exact fun hcs => hcs.elim id fun heq => absurd heq (h [])

/-- What is behind the sign is read, if there is anything. -/
theorem read_eq (h : behindSign cs ≠ []) :
    read bound cs = readOn bound 0 (behindSign cs) := by
  rw [ne_eq, behindSign_eq_nil_iff, not_or] at h
  unfold read
  split
  · exact absurd rfl h.1
  · exact absurd rfl h.2
  · next c rest _ =>
    by_cases hc : c = '+'
    · rw [if_pos hc, hc]
      rfl
    · rw [if_neg hc, behindSign_of_ne hc]

-- ============================================================ numbers

/-- The characters write the number: behind an optional plus sign stands
at least one digit, and the digits have the number for their value. -/
def Writes (cs : List Char) (n : Nat) : Prop :=
  ∃ sign digits, cs = sign ++ digits ∧ (sign = [] ∨ sign = ['+'])
    ∧ digits ≠ [] ∧ (∀ c ∈ digits, c.isDigit = true)
    ∧ Nat.ofDigitChars 10 digits 0 = n

/-- Behind the sign, if there is one, stand digits whose value is within the
bound, and then the character. -/
structure Comes (bound : Nat) (cs before : List Char) (c : Char) : Prop where
  split : ∃ after, behindSign cs = before ++ c :: after
  digits : ∀ d ∈ before, d.isDigit = true
  within : Nat.ofDigitChars 10 before 0 ≤ bound

/-- Reading from left to right meets the fault: there is nothing to read,
or the sign stands alone, or a character comes that is no digit, or a digit
with which the bound is passed. -/
inductive Meets (bound : Nat) (cs : List Char) : Fault → Prop where
  | empty (h : cs = []) : Meets bound cs .empty
  | sign (h : cs = ['+']) : Meets bound cs .invalidDigit
  | invalidDigit {before : List Char} {c : Char} (h : Comes bound cs before c)
      (hc : c.isDigit = false) : Meets bound cs .invalidDigit
  | tooLarge {before : List Char} {c : Char} (h : Comes bound cs before c)
      (hc : c.isDigit = true)
      (hpast : bound < Nat.ofDigitChars 10 (before ++ [c]) 0) :
      Meets bound cs .tooLarge

/-- A text writes a number exactly where the characters behind its sign are
digits, at least one, of that value. -/
theorem writes_iff :
    Writes cs n ↔ behindSign cs ≠ []
      ∧ (∀ c ∈ behindSign cs, c.isDigit = true)
      ∧ Nat.ofDigitChars 10 (behindSign cs) 0 = n := by
  constructor
  · rintro ⟨sign, digits, rfl, hsign, hne, hdigits, hvalue⟩
    have hbehind : behindSign (sign ++ digits) = digits :=
      behindSign_append hsign fun c hc =>
        hdigits c (List.mem_of_mem_head? hc)
    rw [hbehind]
    exact ⟨hne, hdigits, hvalue⟩
  · rintro ⟨hne, hdigits, hvalue⟩
    obtain ⟨sign, hsign, hcs⟩ := exists_sign cs
    exact ⟨sign, behindSign cs, hcs, hsign, hne, hdigits, hvalue⟩

/-- A numeral within the bound is read as its value. -/
theorem read_of_writes (h : Writes cs n) (hle : n ≤ bound) :
    read bound cs = .ok n := by
  obtain ⟨hne, hdigits, rfl⟩ := writes_iff.1 h
  have hall := @readOn_append bound 0 (behindSign cs) [] hdigits hle
  rw [List.append_nil] at hall
  rw [read_eq hne, hall, readOn]

/-- Reading comes to a character where all digits in front of it are within
the bound, and goes on from their value. -/
theorem read_of_comes (h : Comes bound cs before c) :
    ∃ after, read bound cs
      = readOn bound (Nat.ofDigitChars 10 before 0) (c :: after) := by
  obtain ⟨⟨after, hsplit⟩, hdigits, hwithin⟩ := h
  refine ⟨after, ?_⟩
  rw [read_eq (by simp [hsplit]), hsplit, readOn_append hdigits hwithin]

/-- What meets a fault is read as that fault. -/
theorem read_of_meets {fault : Fault} (h : Meets bound cs fault) :
    read bound cs = .error fault := by
  cases h with
  | empty h => rw [h, read]
  | sign h => rw [h, read]
  | invalidDigit h hc =>
      obtain ⟨after, hread⟩ := read_of_comes h
      rw [hread, readOn_cons_of_not_isDigit hc]
  | tooLarge h hc hpast =>
      obtain ⟨after, hread⟩ := read_of_comes h
      rw [ofDigitChars_concat] at hpast
      rw [hread, readOn_cons_of_lt hc hpast]

/-- What is behind the sign are digits within the bound, or reading them a
fault is met. -/
theorem within_or_meets (bound : Nat) (cs : List Char) :
    ((∀ c ∈ behindSign cs, c.isDigit = true)
        ∧ Nat.ofDigitChars 10 (behindSign cs) 0 ≤ bound)
      ∨ ∃ fault, Meets bound cs fault := by
  rcases readOn_ends (Nat.zero_le bound) (behindSign cs) with
    hall | ⟨before, c, after, hsplit, hdigits, hwithin, hc⟩
  · exact .inl hall
  · have hcomes : Comes bound cs before c := ⟨⟨after, hsplit⟩, hdigits, hwithin⟩
    rcases hc with hc | ⟨hc, hpast⟩
    · exact .inr ⟨_, .invalidDigit hcomes hc⟩
    · exact .inr ⟨_, .tooLarge hcomes hc hpast⟩

/-- Either a number within the bound is written, or a fault is met. -/
theorem writes_or_meets (bound : Nat) (cs : List Char) :
    (∃ n, Writes cs n ∧ n ≤ bound) ∨ ∃ fault, Meets bound cs fault := by
  by_cases hne : behindSign cs = []
  · rcases behindSign_eq_nil_iff.1 hne with h | h
    · exact .inr ⟨_, .empty h⟩
    · exact .inr ⟨_, .sign h⟩
  · rcases within_or_meets bound cs with ⟨hdigits, hle⟩ | hmeets
    · exact .inl ⟨_, writes_iff.2 ⟨hne, hdigits, rfl⟩, hle⟩
    · exact .inr hmeets

/-- What is read is what is written, if it is within the bound. -/
theorem read_eq_ok_iff :
    read bound cs = .ok n ↔ Writes cs n ∧ n ≤ bound := by
  constructor
  · intro h
    rcases writes_or_meets bound cs with ⟨m, hm, hle⟩ | ⟨fault, hfault⟩
    · rw [read_of_writes hm hle] at h
      cases h
      exact ⟨hm, hle⟩
    · rw [read_of_meets hfault] at h
      cases h
  · exact fun h => read_of_writes h.1 h.2

/-- Reading fails with the fault that it meets. -/
theorem read_eq_error_iff {fault : Fault} :
    read bound cs = .error fault ↔ Meets bound cs fault := by
  constructor
  · intro h
    rcases writes_or_meets bound cs with ⟨m, hm, hle⟩ | ⟨fault', hfault⟩
    · rw [read_of_writes hm hle] at h
      cases h
    · rw [read_of_meets hfault] at h
      cases h
      exact hfault
  · exact read_of_meets

/-- A number past the bound is too large. -/
theorem read_of_writes_past (h : Writes cs n) (hlt : bound < n) :
    read bound cs = .error .tooLarge := by
  obtain ⟨-, hdigits, rfl⟩ := writes_iff.1 h
  rcases readOn_ends (Nat.zero_le bound) (behindSign cs) with
    ⟨-, hle⟩ | ⟨before, c, after, hsplit, hbefore, hle, hc⟩
  · exact absurd hle (Nat.not_le_of_lt hlt)
  · have hdigit := hdigits c (by simp [hsplit])
    rcases hc with hc | ⟨-, hpast⟩
    · rw [hdigit] at hc
      cases hc
    · exact read_of_meets (.tooLarge ⟨⟨after, hsplit⟩, hbefore, hle⟩ hdigit hpast)

-- ============================================================ numerals

/-- The decimal numeral of a number is digits alone. -/
theorem isDigit_of_mem_toDigits (h : c ∈ Nat.toDigits 10 n) :
    c.isDigit = true :=
  Nat.isDigit_of_mem_toDigits (by decide) (by decide) h

/-- And so it is with zeros in front. -/
theorem isDigit_of_mem_zeros_toDigits {zeros : Nat}
    (h : c ∈ List.replicate zeros '0' ++ Nat.toDigits 10 n) :
    c.isDigit = true := by
  rcases List.mem_append.1 h with h | h
  · rw [List.eq_of_mem_replicate h]
    rfl
  · exact isDigit_of_mem_toDigits h

/-- Zeros in front add nothing to a value. -/
theorem ofDigitChars_zeros (zeros : Nat) :
    Nat.ofDigitChars 10 (List.replicate zeros '0') 0 = 0 := by
  induction zeros with
  | zero => rfl
  | succ zeros ih =>
      rw [List.replicate_succ, Nat.ofDigitChars_cons]
      exact ih

/-- A numeral writes its number, with any zeros before it. -/
theorem writes_zeros_toDigits (zeros n : Nat) :
    Writes (List.replicate zeros '0' ++ Nat.toDigits 10 n) n := by
  refine ⟨[], List.replicate zeros '0' ++ Nat.toDigits 10 n, rfl, .inl rfl,
    by simp [Nat.toDigits_ne_nil],
    fun c hc => isDigit_of_mem_zeros_toDigits hc, ?_⟩
  rw [Nat.ofDigitChars_append, ofDigitChars_zeros,
    Nat.ofDigitChars_toDigits (by decide) (by decide)]

/-- A numeral reads back as its number, if that is within the bound. -/
theorem read_toDigits (bound n : Nat) :
    read bound (Nat.toDigits 10 n)
      = if n ≤ bound then .ok n else .error .tooLarge := by
  have hwrites := writes_zeros_toDigits 0 n
  by_cases hle : n ≤ bound
  · rw [if_pos hle]
    exact read_of_writes hwrites hle
  · rw [if_neg hle]
    exact read_of_writes_past hwrites (Nat.lt_of_not_le hle)

end PairingHarness.Decimal
