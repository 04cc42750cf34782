/-
Bytes and the text they spell.

`decode_eq_ok_iff`: bytes decode to a text exactly when they are the
encodings of its characters one after another. So no byte of a message
is lost or altered on the way to text, and what has no such reading is
refused.

Both directions go sequence by sequence. A lead byte fixes how many
bytes follow and what the first of them may be; those bounds are what
keeps the form shortest and off the surrogates, so that the number
spelled is that of a character whose encoding is the sequence
(`encodeChar_two`, `encodeChar_three`, `encodeChar_four`).

The decoder reports where it failed and whether more bytes could have
helped, because the message of the program does. For the equivalence
only success matters; the bounds on the second byte are the ones of the
standard, and each of them is used once.
-/
import PairingHarness.Text.Utf8

namespace PairingHarness.Text.Utf8

/-- The bytes of a text. -/
def encode (text : String) : List UInt8 :=
  text.toList.flatMap String.utf8EncodeChar

@[simp] theorem encode_empty : encode "" = [] := rfl

-- ======================================================= one character

/-- Whether a number is that of a character. -/
private theorem toNat_ofNat {n : Nat} (h : n.isValidChar) :
    (Char.ofNat n).val.toNat = n := by
  unfold Char.ofNat
  rw [dif_pos h]
  rfl

private theorem ofNat_eq (b : UInt8) {n : Nat} (h : n = b.toNat) :
    UInt8.ofNat n = b := by
  subst h
  exact UInt8.ofNat_toNat

theorem encodeChar_one {a : UInt8} (ha : a.toNat < 0x80) :
    String.utf8EncodeChar (Char.ofNat a.toNat) = [a] := by
  have hv : (Char.ofNat a.toNat).val.toNat = a.toNat :=
    toNat_ofNat (Or.inl (by omega))
  simp only [String.utf8EncodeChar, hv]
  rw [if_pos (by omega), ofNat_eq a rfl]

/-- A sequence of two bytes encodes the character whose number it spells, -/
theorem encodeChar_two {a b : UInt8}
    (ha : 0xc2 ≤ a.toNat) (ha' : a.toNat < 0xe0)
    (hb : 0x80 ≤ b.toNat) (hb' : b.toNat ≤ 0xbf) :
    String.utf8EncodeChar
      (Char.ofNat ((a.toNat - 0xc0) * 0x40 + (b.toNat - 0x80))) = [a, b] := by
  generalize hn : (a.toNat - 0xc0) * 0x40 + (b.toNat - 0x80) = n
  have hv : (Char.ofNat n).val.toNat = n := toNat_ofNat (Or.inl (by omega))
  simp only [String.utf8EncodeChar, hv]
  rw [if_neg (by omega), if_pos (by omega), ofNat_eq a (by omega),
    ofNat_eq b (by omega)]

/-- so does one of three, off the surrogates, -/
theorem encodeChar_three {a b c : UInt8}
    (ha : 0xe0 ≤ a.toNat) (ha' : a.toNat < 0xf0)
    (hb : (if a.toNat = 0xe0 then 0xa0 else 0x80) ≤ b.toNat)
    (hb' : b.toNat ≤ if a.toNat = 0xed then 0x9f else 0xbf)
    (hc : 0x80 ≤ c.toNat) (hc' : c.toNat ≤ 0xbf) :
    String.utf8EncodeChar
      (Char.ofNat (((a.toNat - 0xe0) * 0x40 + (b.toNat - 0x80)) * 0x40
        + (c.toNat - 0x80))) = [a, b, c] := by
  generalize hn : ((a.toNat - 0xe0) * 0x40 + (b.toNat - 0x80)) * 0x40
    + (c.toNat - 0x80) = n
  have hv : (Char.ofNat n).val.toNat = n := by
    apply toNat_ofNat
    unfold Nat.isValidChar
    split at hb <;> split at hb' <;> omega
  have hlow : 0x7ff < n := by split at hb <;> split at hb' <;> omega
  have hbb : 0x80 ≤ b.toNat ∧ b.toNat ≤ 0xbf := by
    split at hb <;> split at hb' <;> omega
  simp only [String.utf8EncodeChar, hv]
  rw [if_neg (by omega), if_neg (by omega), if_pos (by omega),
    ofNat_eq a (by omega), ofNat_eq b (by omega), ofNat_eq c (by omega)]

/-- and one of four, up to the last character. -/
theorem encodeChar_four {a b c d : UInt8}
    (ha : 0xf0 ≤ a.toNat) (ha' : a.toNat < 0xf5)
    (hb : (if a.toNat = 0xf0 then 0x90 else 0x80) ≤ b.toNat)
    (hb' : b.toNat ≤ if a.toNat = 0xf4 then 0x8f else 0xbf)
    (hc : 0x80 ≤ c.toNat) (hc' : c.toNat ≤ 0xbf)
    (hd : 0x80 ≤ d.toNat) (hd' : d.toNat ≤ 0xbf) :
    String.utf8EncodeChar
      (Char.ofNat ((((a.toNat - 0xf0) * 0x40 + (b.toNat - 0x80)) * 0x40
        + (c.toNat - 0x80)) * 0x40 + (d.toNat - 0x80))) = [a, b, c, d] := by
  generalize hn : (((a.toNat - 0xf0) * 0x40 + (b.toNat - 0x80)) * 0x40
    + (c.toNat - 0x80)) * 0x40 + (d.toNat - 0x80) = n
  have hbb : 0x80 ≤ b.toNat ∧ b.toNat ≤ 0xbf := by
    split at hb <;> split at hb' <;> omega
  have hlow : 0xffff < n := by split at hb <;> split at hb' <;> omega
  have hhigh : n < 0x110000 := by split at hb <;> split at hb' <;> omega
  have hv : (Char.ofNat n).val.toNat = n :=
    toNat_ofNat (Or.inr ⟨by omega, hhigh⟩)
  simp only [String.utf8EncodeChar, hv]
  rw [if_neg (by omega), if_neg (by omega), if_neg (by omega),
    ofNat_eq a (by omega), ofNat_eq b (by omega), ofNat_eq c (by omega),
    ofNat_eq d (by omega)]

-- ============================================================ the steps

variable {i : Nat} {p : Pending} {b : UInt8} {rest bytes : List UInt8}
  {cs : List Char}

/-- A lead byte opens a sequence. -/
theorem decodeFrom_lead (hb : 0x80 ≤ b.toNat)
    (hp : begin? i b.toNat = some p) :
    decodeFrom i none (b :: rest) = decodeFrom (i + 1) (some p) rest := by
  rw [decodeFrom, if_neg (by omega), hp]

/-- A byte within its bounds that is not the last of its sequence. -/
theorem decodeFrom_more (hl : p.low ≤ b.toNat) (hh : b.toNat ≤ p.high)
    (hm : p.missing ≠ 0) :
    decodeFrom i (some p) (b :: rest)
      = decodeFrom (i + 1) (some ⟨p.start, p.seen + 1, p.missing - 1,
          p.value * 0x40 + (b.toNat - 0x80), 0x80, 0xbf⟩) rest := by
  rw [decodeFrom, if_pos ⟨hl, hh⟩, if_neg hm]

/-- A byte within its bounds that completes its sequence. -/
theorem decodeFrom_last (hl : p.low ≤ b.toNat) (hh : b.toNat ≤ p.high)
    (hm : p.missing = 0) :
    decodeFrom i (some p) (b :: rest)
      = (decodeFrom (i + 1) none rest).map
          (Char.ofNat (p.value * 0x40 + (b.toNat - 0x80)) :: ·) := by
  rw [decodeFrom, if_pos ⟨hl, hh⟩, if_pos hm]

/-- An open sequence needs a next byte, and within its bounds. -/
theorem exists_next (h : decodeFrom i (some p) bytes = .ok cs) :
    ∃ b rest, bytes = b :: rest ∧ p.low ≤ b.toNat ∧ b.toNat ≤ p.high := by
  cases bytes with
  | nil =>
      rw [decodeFrom] at h
      cases h
  | cons b rest =>
      by_cases hb : p.low ≤ b.toNat ∧ b.toNat ≤ p.high
      · exact ⟨b, rest, rfl, hb.1, hb.2⟩
      · rw [decodeFrom, if_neg hb] at h
        cases h

theorem begin?_two {a : Nat} (h : 0xc2 ≤ a) (h' : a < 0xe0) :
    begin? i a = some ⟨i, 1, 0, a - 0xc0, 0x80, 0xbf⟩ := by
  unfold begin?
  rw [if_neg (by omega), if_pos h']

theorem begin?_three {a : Nat} (h : 0xe0 ≤ a) (h' : a < 0xf0) :
    begin? i a = some ⟨i, 1, 1, a - 0xe0, if a = 0xe0 then 0xa0 else 0x80,
      if a = 0xed then 0x9f else 0xbf⟩ := by
  unfold begin?
  rw [if_neg (by omega), if_neg (by omega), if_pos h']

theorem begin?_four {a : Nat} (h : 0xf0 ≤ a) (h' : a < 0xf5) :
    begin? i a = some ⟨i, 1, 2, a - 0xf0, if a = 0xf0 then 0x90 else 0x80,
      if a = 0xf4 then 0x8f else 0xbf⟩ := by
  unfold begin?
  rw [if_neg (by omega), if_neg (by omega), if_neg (by omega), if_pos h']

/-- The lead bytes, and no others, open a sequence. -/
theorem begin?_eq_some {a : Nat} (h : begin? i a = some p) :
    0xc2 ≤ a ∧ a < 0xf5 := by
  unfold begin? at h
  split at h
  · cases h
  · split at h
    · omega
    · split at h
      · omega
      · split at h
        · omega
        · cases h

-- ==================================================== whole sequences

theorem decodeFrom_two {a b : UInt8}
    (ha : 0xc2 ≤ a.toNat) (ha' : a.toNat < 0xe0)
    (hb : 0x80 ≤ b.toNat) (hb' : b.toNat ≤ 0xbf) :
    decodeFrom i none (a :: b :: rest)
      = (decodeFrom (i + 2) none rest).map
          (Char.ofNat ((a.toNat - 0xc0) * 0x40 + (b.toNat - 0x80)) :: ·) := by
  rw [decodeFrom_lead (by omega) (begin?_two ha ha'),
    decodeFrom_last hb hb' rfl]

theorem decodeFrom_three {a b c : UInt8}
    (ha : 0xe0 ≤ a.toNat) (ha' : a.toNat < 0xf0)
    (hb : (if a.toNat = 0xe0 then 0xa0 else 0x80) ≤ b.toNat)
    (hb' : b.toNat ≤ if a.toNat = 0xed then 0x9f else 0xbf)
    (hc : 0x80 ≤ c.toNat) (hc' : c.toNat ≤ 0xbf) :
    decodeFrom i none (a :: b :: c :: rest)
      = (decodeFrom (i + 3) none rest).map
          (Char.ofNat (((a.toNat - 0xe0) * 0x40 + (b.toNat - 0x80)) * 0x40
            + (c.toNat - 0x80)) :: ·) := by
  rw [decodeFrom_lead (by omega) (begin?_three ha ha'),
    decodeFrom_more hb hb' (by simp), decodeFrom_last hc hc' rfl]

theorem decodeFrom_four {a b c d : UInt8}
    (ha : 0xf0 ≤ a.toNat) (ha' : a.toNat < 0xf5)
    (hb : (if a.toNat = 0xf0 then 0x90 else 0x80) ≤ b.toNat)
    (hb' : b.toNat ≤ if a.toNat = 0xf4 then 0x8f else 0xbf)
    (hc : 0x80 ≤ c.toNat) (hc' : c.toNat ≤ 0xbf)
    (hd : 0x80 ≤ d.toNat) (hd' : d.toNat ≤ 0xbf) :
    decodeFrom i none (a :: b :: c :: d :: rest)
      = (decodeFrom (i + 4) none rest).map
          (Char.ofNat ((((a.toNat - 0xf0) * 0x40 + (b.toNat - 0x80)) * 0x40
            + (c.toNat - 0x80)) * 0x40 + (d.toNat - 0x80)) :: ·) := by
  rw [decodeFrom_lead (by omega) (begin?_four ha ha'),
    decodeFrom_more hb hb' (by simp), decodeFrom_more hc hc' (by simp),
    decodeFrom_last hd hd' rfl]

/-- The encoding of a character is read as that character. -/
theorem decodeFrom_encodeChar (i : Nat) (c : Char) (rest : List UInt8) :
    ∃ j, decodeFrom i none (String.utf8EncodeChar c ++ rest)
      = (decodeFrom j none rest).map (c :: ·) := by
  have hc : Char.ofNat c.val.toNat = c := Char.ofNat_toNat c
  have hvalid := c.valid
  simp only [UInt32.isValidChar, Nat.isValidChar] at hvalid
  generalize hv : c.val.toNat = v at hc hvalid
  have hbyte : ∀ n, n < 256 → (UInt8.ofNat n).toNat = n := fun n hn => by
    rw [UInt8.toNat_ofNat']
    omega
  simp only [String.utf8EncodeChar, hv]
  -- by the length of the sequence, one to four bytes
  split
  · refine ⟨i + 1, ?_⟩
    rw [List.singleton_append, decodeFrom, if_pos (by rw [hbyte] <;> omega),
      hbyte v (by omega), hc]
  · split
    · have ha := hbyte (v / 64 % 0x20 + 0xc0) (by omega)
      have hb := hbyte (v % 0x40 + 0x80) (by omega)
      refine ⟨i + 2, ?_⟩
      rw [List.cons_append, List.singleton_append,
        decodeFrom_two (by omega) (by omega) (by omega) (by omega), ha, hb,
        show (v / 64 % 0x20 + 0xc0 - 0xc0) * 0x40 + (v % 0x40 + 0x80 - 0x80)
          = v by omega, hc]
    · split
      · have ha := hbyte (v / 4096 % 0x10 + 0xe0) (by omega)
        have hb := hbyte (v / 64 % 0x40 + 0x80) (by omega)
        have hd := hbyte (v % 0x40 + 0x80) (by omega)
        refine ⟨i + 3, ?_⟩
        rw [List.cons_append, List.cons_append, List.singleton_append,
          decodeFrom_three (by omega) (by omega) (by rw [ha, hb]; split <;> omega)
            (by rw [ha, hb]; split <;> omega) (by omega) (by omega), ha, hb, hd,
          show ((v / 4096 % 0x10 + 0xe0 - 0xe0) * 0x40
              + (v / 64 % 0x40 + 0x80 - 0x80)) * 0x40 + (v % 0x40 + 0x80 - 0x80)
            = v by omega, hc]
      · have ha := hbyte (v / 262144 % 0x08 + 0xf0) (by omega)
        have hb := hbyte (v / 4096 % 0x40 + 0x80) (by omega)
        have hd := hbyte (v / 64 % 0x40 + 0x80) (by omega)
        have he := hbyte (v % 0x40 + 0x80) (by omega)
        refine ⟨i + 4, ?_⟩
        rw [List.cons_append, List.cons_append, List.cons_append,
          List.singleton_append,
          decodeFrom_four (by omega) (by omega) (by rw [ha, hb]; split <;> omega)
            (by rw [ha, hb]; split <;> omega) (by omega) (by omega) (by omega)
            (by omega), ha, hb, hd, he,
          show (((v / 262144 % 0x08 + 0xf0 - 0xf0) * 0x40
              + (v / 4096 % 0x40 + 0x80 - 0x80)) * 0x40
              + (v / 64 % 0x40 + 0x80 - 0x80)) * 0x40 + (v % 0x40 + 0x80 - 0x80)
            = v by omega, hc]

/-- A reading that goes on after a character. -/
private theorem map_cons_eq_ok {r : Except Fault (List Char)} {c : Char}
    (h : r.map (c :: ·) = .ok cs) : ∃ cs', r = .ok cs' ∧ cs = c :: cs' := by
  cases r with
  | error f => cases h
  | ok cs' =>
      cases h
      exact ⟨cs', rfl, rfl⟩

/-- What is read starts with a character, and the bytes start with the
encoding of that character. -/
theorem exists_encodeChar {a : UInt8}
    (h : decodeFrom i none (a :: bytes) = .ok cs) :
    ∃ c cs' rest j, cs = c :: cs'
      ∧ a :: bytes = String.utf8EncodeChar c ++ rest
      ∧ decodeFrom j none rest = .ok cs' := by
  by_cases ha : a.toNat < 0x80
  · rw [decodeFrom, if_pos ha] at h
    obtain ⟨cs', hcs', rfl⟩ := map_cons_eq_ok h
    exact ⟨_, cs', bytes, _, rfl, by rw [encodeChar_one ha]; rfl, hcs'⟩
  · cases hp : begin? i a.toNat with
    | none =>
        rw [decodeFrom, if_neg ha, hp] at h
        cases h
    | some p =>
        have hrest := h
        rw [decodeFrom_lead (by omega) hp] at hrest
        obtain ⟨hlow, hhigh⟩ := begin?_eq_some hp
        obtain ⟨b, bytes, rfl, hb, hb'⟩ := exists_next hrest
        -- how many bytes follow depends on the lead byte alone
        by_cases h2 : a.toNat < 0xe0
        · rw [begin?_two hlow h2] at hp
          cases hp
          rw [decodeFrom_two hlow h2 hb hb'] at h
          obtain ⟨cs', hcs', rfl⟩ := map_cons_eq_ok h
          exact ⟨_, cs', bytes, _, rfl,
            by rw [encodeChar_two hlow h2 hb hb']; rfl, hcs'⟩
        · by_cases h3 : a.toNat < 0xf0
          · rw [begin?_three (by omega) h3] at hp
            cases hp
            rw [decodeFrom_more hb hb' (by simp)] at hrest
            obtain ⟨c, bytes, rfl, hc, hc'⟩ := exists_next hrest
            rw [decodeFrom_three (by omega) h3 hb hb' hc hc'] at h
            obtain ⟨cs', hcs', rfl⟩ := map_cons_eq_ok h
            exact ⟨_, cs', bytes, _, rfl,
              by rw [encodeChar_three (by omega) h3 hb hb' hc hc']; rfl, hcs'⟩
          · rw [begin?_four (by omega) hhigh] at hp
            cases hp
            rw [decodeFrom_more hb hb' (by simp)] at hrest
            obtain ⟨c, bytes, rfl, hc, hc'⟩ := exists_next hrest
            rw [decodeFrom_more hc hc' (by simp)] at hrest
            obtain ⟨d, bytes, rfl, hd, hd'⟩ := exists_next hrest
            rw [decodeFrom_four (by omega) hhigh hb hb' hc hc' hd hd'] at h
            obtain ⟨cs', hcs', rfl⟩ := map_cons_eq_ok h
            exact ⟨_, cs', bytes, _, rfl,
              by rw [encodeChar_four (by omega) hhigh hb hb' hc hc' hd hd']
                 rfl, hcs'⟩

-- ========================================================= whole texts

/-- What encodes a text decodes to it, -/
theorem decodeFrom_encode (cs : List Char) :
    ∀ i, decodeFrom i none (cs.flatMap String.utf8EncodeChar) = .ok cs := by
  induction cs with
  | nil =>
      intro i
      rfl
  | cons c cs ih =>
      intro i
      obtain ⟨j, hj⟩ :=
        decodeFrom_encodeChar i c (cs.flatMap String.utf8EncodeChar)
      rw [List.flatMap_cons, hj, ih]
      rfl

/-- and what decodes to a text encodes it. -/
theorem encode_of_decodeFrom (cs : List Char) :
    ∀ {i bytes}, decodeFrom i none bytes = .ok cs →
      bytes = cs.flatMap String.utf8EncodeChar := by
  induction cs with
  | nil =>
      intro i bytes h
      cases bytes with
      | nil => rfl
      | cons a bytes =>
          obtain ⟨c, cs', _, _, hcs, -, -⟩ := exists_encodeChar h
          cases hcs
  | cons c cs ih =>
      intro i bytes h
      cases bytes with
      | nil =>
          rw [decodeFrom] at h
          cases h
      | cons a bytes =>
          obtain ⟨c', cs', rest, j, hcs, hbytes, hrest⟩ := exists_encodeChar h
          injection hcs with hc hcs
          subst hc
          subst hcs
          rw [hbytes, ih hrest, List.flatMap_cons]

/-- Bytes decode to a text exactly when they are its encoding. -/
theorem decode_eq_ok_iff {bytes : List UInt8} {text : String} :
    decode bytes = .ok text ↔ bytes = encode text := by
  unfold decode encode
  constructor
  · intro h
    cases hd : decodeFrom 0 none bytes with
    | error f =>
        rw [hd] at h
        cases h
    | ok cs =>
        rw [hd] at h
        cases h
        rw [String.toList_ofList]
        exact encode_of_decodeFrom cs hd
  · intro h
    rw [h, decodeFrom_encode]
    exact congrArg Except.ok String.ofList_toList

/-- A text is known by its bytes. -/
theorem encode_inj {text other : String} (h : encode text = encode other) :
    text = other := by
  have hok := decode_eq_ok_iff.2 h
  rw [decode_eq_ok_iff.2 rfl] at hok
  cases hok
  rfl

end PairingHarness.Text.Utf8
