/-
What a quoted value says.

Behind its opening quote a quoted text is read up to the first double
quote that follows no backslash, or one that is itself escaped
(`Undoes`): an escape stands for one character, a letter for a fixed one
and hexadecimal digits in braces for the one with their number, and every
other character stands for itself. There is one way to read a text like
that (`Undoes.unique`).

A value in quotes is written character by character, each on its own
(`undoes_quotedChar`), so it is read back with all that follows it, and
nothing between its quotes could break the line or end it too early
(`isForm_quoted`).

Which characters are written by their number is a table of Unicode,
those that are not printed or that change what stands before them. The
statement does not depend on what is in the table: a character that is
not in it is written as itself and read as itself, and one that is in it
is read back from its number.
-/
import PairingHarness.Proofs.Text.Toml.Reading
import PairingHarness.Text.Quoted

namespace PairingHarness.Text.Quoted

open Json (hexDigit?)
open Toml (hexNumber? Front stops_cons)

variable {c d : Char} {cs r r' s v v' : List Char} {n : Nat}

-- =========================================================== the reader

/-- The letters that can follow a backslash, each with what it stands
for. -/
def letters : List (Char × Char) :=
  [('"', '"'), ('\\', '\\'), ('0', '\x00'), ('t', '\t'), ('r', '\x0d'),
   ('n', '\n')]

/-- The digits of an escape, in either case. -/
def isHexDigit (c : Char) : Bool :=
  (hexDigit? c).isSome

/-- An escape without its backslash, and the character it stands for. -/
inductive Escape :
    (source : List Char) → (c : Char) → (rest : List Char) → Prop where
  | letter {e c : Char} {r : List Char} (h : (e, c) ∈ letters) :
      Escape (e :: r) c r
  | number {digits s r : List Char} {n : Nat} (hne : digits ≠ [])
      (hdigits : Front isHexDigit digits s ('\x7d' :: r))
      (hvalue : hexNumber? digits = some n) (hvalid : n.isValidChar) :
      Escape ('u' :: '\x7b' :: s) (Char.ofNat n) r

/-- A value behind its opening quote, and what is left behind its closing
quote. -/
inductive Undoes : (source value rest : List Char) → Prop where
  | close {r : List Char} : Undoes ('"' :: r) [] r
  | raw {c : Char} {s v r : List Char} (hquote : c ≠ '"')
      (hslash : c ≠ '\\') : Undoes s v r → Undoes (c :: s) (c :: v) r
  | escape {c : Char} {s s' v r : List Char} :
      Escape s c s' → Undoes s' v r → Undoes ('\\' :: s) (c :: v) r

/-- Whether a double quote stands in the text that no backslash escapes.
`escaped` tells if the next character is behind one that counts. -/
def hasBareQuote (escaped : Bool) : List Char → Bool
  | [] => false
  | c :: r =>
    (!escaped && c = '"') || hasBareQuote (!escaped && c = '\\') r

/-- The characters at which a line can end: line feed, vertical tab, form
feed, carriage return, next line, and the separators of lines and of
paragraphs. -/
def lineBreaks : List Char :=
  ['\n', '\x0b', '\x0c', '\x0d', '\u0085', '\u2028', '\u2029']

/-- What stands between the quotes of a value. -/
structure IsForm (form value : List Char) : Prop where
  /-- It stays on one line, with no control character. -/
  shown : ∀ c ∈ form, isControl c = false ∧ c ∉ lineBreaks
  /-- No quote in it could end it. -/
  closed : hasBareQuote false form = false
  /-- With the escapes undone up to the closing quote it is the value. -/
  undoes_iff : ∀ rest v r, Undoes (form ++ '"' :: rest) v r
    ↔ v = value ∧ r = rest

-- ============================================================ one reading

theorem letters_functional :
    ∀ p ∈ letters, ∀ q ∈ letters, p.1 = q.1 → p.2 = q.2 := by
  decide

theorem letters_facts :
    ∀ p ∈ letters, p.1 ≠ 'u' ∧ isConcealed p.1 = false := by
  decide

theorem not_isHexDigit_brace : isHexDigit '\x7d' = false := by
  decide

/-- An escape stands for one character and has one end. -/
theorem Escape.unique {c' : Char} (h : Escape s c r)
    (h' : Escape s c' r') : c = c' ∧ r = r' := by
  cases h with
  | letter hletter =>
      cases h' with
      | letter hletter' =>
          exact ⟨letters_functional _ hletter _ hletter' rfl, rfl⟩
      | number => exact absurd rfl (letters_facts _ hletter).1
  | number _ hdigits hvalue =>
      cases h' with
      | letter hletter' => exact absurd rfl (letters_facts _ hletter').1
      | number _ hdigits' hvalue' =>
          have hstops := stops_cons (r := r).2 not_isHexDigit_brace
          have hstops' := stops_cons (r := r').2 not_isHexDigit_brace
          obtain ⟨rfl, hrest⟩ := hdigits.unique hdigits' hstops hstops'
          obtain rfl := Option.some.inj (hvalue.symm.trans hvalue')
          exact ⟨rfl, (List.cons.inj hrest).2⟩

/-- So a quoted text says one thing and stops in one place. -/
theorem Undoes.unique (h : Undoes s v r) (h' : Undoes s v' r') :
    v = v' ∧ r = r' := by
  induction h generalizing v' with
  | close =>
      cases h' with
      | close => exact ⟨rfl, rfl⟩
      | raw hquote => exact absurd rfl hquote
  | raw hquote hslash _ ih =>
      cases h' with
      | close => exact absurd rfl hquote
      | raw _ _ hrest' =>
          obtain ⟨rfl, rfl⟩ := ih hrest'
          exact ⟨rfl, rfl⟩
      | escape => exact absurd rfl hslash
  | escape hescape _ ih =>
      cases h' with
      | raw _ hslash => exact absurd rfl hslash
      | escape hescape' hrest' =>
          obtain ⟨rfl, rfl⟩ := hescape.unique hescape'
          obtain ⟨rfl, rfl⟩ := ih hrest'
          exact ⟨rfl, rfl⟩

-- =============================================================== numbers

theorem hexDigit?_digitChar :
    ∀ d < 16, hexDigit? (Nat.digitChar d) = some d := by
  decide

/-- A further hexadecimal digit multiplies by sixteen and adds its value. -/
theorem hexNumber?_concat (h : hexNumber? cs = some n) {d : Nat}
    (hd : d < 16) : hexNumber? (cs ++ [Nat.digitChar d])
      = some (n * 16 + d) := by
  unfold hexNumber? at h ⊢
  rw [List.foldlM_append, h]
  simp [hexDigit?_digitChar d hd]

/-- A number is read from its digits. -/
theorem hexNumber?_hexDigits (n : Nat) : hexNumber? (hexDigits n) = some n := by
  unfold hexDigits
  induction n using Nat.strongRecOn with
  | ind n ih =>
      rw [Nat.toDigits_eq_if (by decide)]
      split
      · next hlt =>
          have hnone : hexNumber? [] = some 0 := rfl
          have hlast := hexNumber?_concat hnone hlt
          rwa [Nat.zero_mul, Nat.zero_add] at hlast
      · next hge =>
          rw [hexNumber?_concat (ih (n / 16) (by omega))
            (Nat.mod_lt n (by decide)), Nat.div_add_mod' n 16]

theorem exists_digit_of_mem (h : c ∈ hexDigits n) :
    ∃ d < 16, c = Nat.digitChar d := by
  unfold hexDigits at h
  induction n using Nat.strongRecOn with
  | ind n ih =>
      rw [Nat.toDigits_eq_if (by decide)] at h
      split at h
      · next hlt => exact ⟨n, hlt, List.mem_singleton.1 h⟩
      · next hge =>
          rcases List.mem_append.1 h with h | h
          · exact ih (n / 16) (by omega) h
          · exact ⟨n % 16, Nat.mod_lt n (by decide),
              List.mem_singleton.1 h⟩

theorem digitChar_facts : ∀ d < 16, isHexDigit (Nat.digitChar d) = true
    ∧ isConcealed (Nat.digitChar d) = false
    ∧ Nat.digitChar d ≠ '"' ∧ Nat.digitChar d ≠ '\\' := by
  decide

theorem hexDigits_facts (h : c ∈ hexDigits n) : isHexDigit c = true
    ∧ isConcealed c = false ∧ c ≠ '"' ∧ c ≠ '\\' := by
  obtain ⟨d, hd, rfl⟩ := exists_digit_of_mem h
  exact digitChar_facts d hd

-- ====================================================== one character

/-- The ways in which a character is written in a quoted text. -/
inductive WrittenAs (c : Char) : (chars : List Char) → Prop where
  | letter {e : Char} (h : (e, c) ∈ letters) : WrittenAs c ['\\', e]
  | number : WrittenAs c
      ('\\' :: 'u' :: '\x7b' :: (hexDigits c.toNat ++ ['\x7d']))
  | plain (hquote : c ≠ '"') (hslash : c ≠ '\\')
      (hshown : isConcealed c = false) : WrittenAs c [c]

/-- Every character is written in one of three ways: as itself, with a
letter, or by its number. -/
theorem writtenAs_quotedChar (c : Char) : WrittenAs c (quotedChar c) := by
  unfold quotedChar
  split
  · next hc => subst hc; exact .letter (by decide)
  split
  · next hc => subst hc; exact .letter (by decide)
  split
  · next hc => subst hc; exact .letter (by decide)
  split
  · next hc => subst hc; exact .letter (by decide)
  split
  · next hc => subst hc; exact .letter (by decide)
  split
  · next hc => subst hc; exact .letter (by decide)
  split
  · exact .number
  · next hslash hquote hshown =>
      exact .plain hquote hslash (Bool.eq_false_iff.2 hshown)

/-- Whichever it is, it is read back. -/
theorem undoes_quotedChar (c : Char) (h : Undoes s v r) :
    Undoes (quotedChar c ++ s) (c :: v) r := by
  have hwritten := writtenAs_quotedChar c
  generalize quotedChar c = chars at hwritten ⊢
  cases hwritten with
  | letter hletter => exact .escape (.letter hletter) h
  | number =>
      have hescape : Escape
          ('u' :: '\x7b' :: ((hexDigits c.toNat ++ ['\x7d']) ++ s))
          (Char.ofNat c.toNat) s :=
        .number Nat.toDigits_ne_nil
          ⟨List.append_cons .., fun d hd => (hexDigits_facts hd).1⟩
          (hexNumber?_hexDigits c.toNat) c.valid
      rw [Char.ofNat_toNat] at hescape
      exact .escape hescape h
  | plain hquote hslash => exact .raw hquote hslash h

/-- No character that would not be seen is written as it is. -/
theorem not_isConcealed_of_mem (h : d ∈ quotedChar c) :
    isConcealed d = false := by
  have hwritten := writtenAs_quotedChar c
  generalize quotedChar c = chars at hwritten h
  cases hwritten with
  | letter hletter =>
      simp only [List.mem_cons, List.not_mem_nil, or_false] at h
      obtain rfl | rfl := h
      · rfl
      · exact (letters_facts _ hletter).2
  | number =>
      simp only [List.mem_cons, List.mem_append, List.not_mem_nil,
        or_false] at h
      obtain rfl | rfl | rfl | hdigit | rfl := h
      · rfl
      · rfl
      · rfl
      · exact (hexDigits_facts hdigit).2.1
      · rfl
  | plain hquote hslash hshown =>
      rw [List.mem_singleton] at h
      rwa [h]

theorem hasBareQuote_append (h : ∀ c ∈ cs, c ≠ '"' ∧ c ≠ '\\')
    (s : List Char) : hasBareQuote false (cs ++ s) = hasBareQuote false s := by
  induction cs with
  | nil => rfl
  | cons c cs ih =>
      rw [List.forall_mem_cons] at h
      rw [List.cons_append, hasBareQuote]
      simp [h.1, ih h.2]

theorem hasBareQuote_quotedChar (c : Char) (s : List Char) :
    hasBareQuote false (quotedChar c ++ s) = hasBareQuote false s := by
  have hwritten := writtenAs_quotedChar c
  generalize quotedChar c = chars at hwritten ⊢
  cases hwritten with
  | letter => rfl
  | number =>
      -- the letter behind the backslash is escaped, what follows it is plain
      show hasBareQuote false (('\x7b' :: (hexDigits c.toNat ++ ['\x7d'])) ++ s)
        = _
      refine hasBareQuote_append (fun d hd => ?_) s
      simp only [List.mem_cons, List.mem_append, List.not_mem_nil,
        or_false] at hd
      obtain rfl | hdigit | rfl := hd
      · decide
      · exact (hexDigits_facts hdigit).2.2
      · decide
  | plain hquote hslash =>
      exact hasBareQuote_append (by simp [hquote, hslash]) s

-- ======================================================= whole values

theorem isConcealed_of_mem_lineBreaks (h : c ∈ lineBreaks) :
    isConcealed c = true := by
  have hall : lineBreaks.all isConcealed = true := by decide +kernel
  exact List.all_eq_true.1 hall c h

/-- A whole value is read back up to its quote. -/
theorem undoes_form (cs r : List Char) :
    Undoes (cs.flatMap quotedChar ++ '"' :: r) cs r := by
  induction cs with
  | nil => exact .close
  | cons c cs ih =>
      rw [List.flatMap_cons, List.append_assoc]
      exact undoes_quotedChar c ih

/-- Every value is written on one line, without a quote in it that could
end it, and read back up to its closing quote, whatever follows. -/
theorem isForm_quoted (cs : List Char) : IsForm (cs.flatMap quotedChar) cs where
  shown d hd := by
    obtain ⟨c, -, hdc⟩ := List.mem_flatMap.1 hd
    have hshown := not_isConcealed_of_mem hdc
    refine ⟨?_, fun hbreak => ?_⟩
    · exact (Bool.or_eq_false_iff.1 hshown).1
    · rw [isConcealed_of_mem_lineBreaks hbreak] at hshown
      cases hshown
  closed := by
    induction cs with
    | nil => rfl
    | cons c cs ih => rw [List.flatMap_cons, hasBareQuote_quotedChar, ih]
  undoes_iff rest v r := by
    constructor
    · exact fun h => h.unique (undoes_form cs rest)
    · rintro ⟨rfl, rfl⟩
      exact undoes_form v r

-- An escape in front of a digit, and a backslash in front of a letter.
example : quoted "\x001\\n" = "\"\\01\\\\n\"" := by
  decide

theorem toList_quoted (value : String) : (quoted value).toList
    = '"' :: (value.toList.flatMap quotedChar ++ ['"']) :=
  String.toList_ofList

end PairingHarness.Text.Quoted
