/-
What Base64 text says, by the standard.

A character of the alphabet stands for six bits. Four characters make a
group of 24 bits, the first one's bits highest, and a group is three
bytes. The last group can be short of bytes: an equals sign in the place
of its last character leaves two, a second one leaves one, and the bits
behind the bytes that are left must be zero. `decode?` reads text by
these rules and refuses every other text.

Bytes are written by groups of four characters too (`quartet`), and of a
group whose missing bytes are zero only the characters that tell
something. So the bytes are read back from what is written for them, and
from no other text (`decode?_eq_some_iff`).

The reader is strict in the two places where the standard leaves room:
padding must be there and be no longer than it need be, and bits that
tell nothing must be zero. Both are needed for one text to each list of
bytes, and without the second two texts would carry the same bytes.
-/
import PairingHarness.Text.Base64

namespace PairingHarness.Text.Base64

variable {w x y z : Char} {bits n : Nat} {bytes : List UInt8}
  {text : List Char}

-- =========================================================== the reader

/-- The alphabet, each character in the place of the six bits that it
stands for. -/
def alphabet : List Char :=
  ['A', 'B', 'C', 'D', 'E', 'F', 'G', 'H', 'I', 'J', 'K', 'L', 'M',
   'N', 'O', 'P', 'Q', 'R', 'S', 'T', 'U', 'V', 'W', 'X', 'Y', 'Z',
   'a', 'b', 'c', 'd', 'e', 'f', 'g', 'h', 'i', 'j', 'k', 'l', 'm',
   'n', 'o', 'p', 'q', 'r', 's', 't', 'u', 'v', 'w', 'x', 'y', 'z',
   '0', '1', '2', '3', '4', '5', '6', '7', '8', '9', '+', '/']

/-- The six bits that a character stands for. -/
def sextet? (c : Char) : Option Nat :=
  alphabet.idxOf? c

/-- The bits that characters stand for together. -/
def group? (cs : List Char) : Option Nat :=
  cs.foldlM (fun bits c => (sextet? c).map (bits * 64 + ·)) 0

/-- The three bytes of 24 bits. -/
def octets (bits : Nat) : List UInt8 :=
  [.ofNat (bits / 65536), .ofNat (bits / 256), .ofNat bits]

/-- The first bytes of 24 bits, if the bits behind them, which make up
the numbers below `unit`, are zero. -/
def leading? (count unit bits : Nat) : Option (List UInt8) :=
  if bits % unit = 0 then some ((octets bits).take count) else none

/-- The bytes that a text stands for. In the last group an `A`, which is
six bits of zero, is read for each equals sign. -/
def decode? : List Char → Option (List UInt8)
  | [] => some []
  | w :: x :: y :: z :: rest =>
    if z ≠ '=' then
      (group? [w, x, y, z]).bind fun bits =>
        (decode? rest).map (octets bits ++ ·)
    else if rest ≠ [] then none
    else if y ≠ '=' then (group? [w, x, y, 'A']).bind (leading? 2 256)
    else (group? [w, x, 'A', 'A']).bind (leading? 1 65536)
  | _ => none

-- ========================================================= six bits each

/-- A symbol stands for its six bits, -/
theorem sextet?_symbol : ∀ n < 64, sextet? (symbol n) = some n := by
  decide

theorem symbol_mem : ∀ n < 64, symbol n ∈ alphabet := by
  decide

theorem symbol_ne : ∀ n < 64, symbol n ≠ '=' := by
  decide

theorem getElem?_alphabet : ∀ n < 64, alphabet[n]? = some (symbol n) := by
  decide

/-- and only for these. -/
theorem eq_symbol (h : sextet? w = some n) : n < 64 ∧ w = symbol n := by
  obtain ⟨hlt, hw, -⟩ := List.idxOf?_eq_some_iff.1 h
  have hn : n < 64 := hlt
  have hget := getElem?_alphabet n hn
  rw [List.getElem?_eq_getElem hlt, hw] at hget
  exact ⟨hn, Option.some.inj hget⟩

-- =============================================================== groups

/-- Four characters for three bytes. -/
def quartet (a b c : UInt8) : List Char :=
  [symbol (a.toNat / 4), symbol (a.toNat % 4 * 16 + b.toNat / 16),
   symbol (b.toNat % 16 * 4 + c.toNat / 64), symbol (c.toNat % 64)]

theorem quartet_zero (a b : UInt8) : quartet a b 0
    = [symbol (a.toNat / 4), symbol (a.toNat % 4 * 16 + b.toNat / 16),
      symbol (b.toNat % 16 * 4), 'A'] := by
  simp [quartet, symbol]

theorem quartet_zero_zero (a : UInt8) : quartet a 0 0
    = [symbol (a.toNat / 4), symbol (a.toNat % 4 * 16), 'A', 'A'] := by
  simp [quartet, symbol]

theorem mem_alphabet_of_mem_quartet {a b c : UInt8} {d : Char}
    (h : d ∈ quartet a b c) : d ∈ alphabet := by
  have ha := a.toNat_lt
  have hb := b.toNat_lt
  have hc := c.toNat_lt
  simp only [quartet, List.mem_cons, List.not_mem_nil, or_false] at h
  obtain rfl | rfl | rfl | rfl := h <;> exact symbol_mem _ (by omega)

/-- Four characters of three bytes make the 24 bits of the bytes. -/
theorem group?_quartet (a b c : UInt8) :
    group? (quartet a b c)
      = some (a.toNat * 65536 + b.toNat * 256 + c.toNat) := by
  have ha := a.toNat_lt
  have hb := b.toNat_lt
  have hc := c.toNat_lt
  simp only [group?, quartet, List.foldlM_cons, List.foldlM_nil,
    sextet?_symbol (a.toNat / 4) (by omega),
    sextet?_symbol (a.toNat % 4 * 16 + b.toNat / 16) (by omega),
    sextet?_symbol (b.toNat % 16 * 4 + c.toNat / 64) (by omega),
    sextet?_symbol (c.toNat % 64) (by omega)]
  simp
  omega

/-- And 24 bits are three bytes. -/
theorem octets_eq (a b c : UInt8) :
    octets (a.toNat * 65536 + b.toNat * 256 + c.toNat) = [a, b, c] := by
  have ha := a.toNat_lt
  have hb := b.toNat_lt
  have hc := c.toNat_lt
  simp only [octets, List.cons.injEq, and_true, ← UInt8.toNat_inj,
    UInt8.toNat_ofNat']
  omega

/-- Four characters that stand for bits are those of three bytes. -/
theorem exists_quartet (h : group? [w, x, y, z] = some bits) :
    ∃ a b c, [w, x, y, z] = quartet a b c
      ∧ bits = a.toNat * 65536 + b.toNat * 256 + c.toNat := by
  simp only [group?, List.foldlM_cons, List.foldlM_nil,
    Option.bind_eq_bind, Option.bind_eq_some_iff,
    Option.map_eq_some_iff, Option.pure_def, Option.some.injEq] at h
  obtain ⟨_, ⟨p, hp, rfl⟩, _, ⟨q, hq, rfl⟩, _, ⟨r, hr, rfl⟩, _,
    ⟨s, hs, rfl⟩, rfl⟩ := h
  obtain ⟨hp, rfl⟩ := eq_symbol hp
  obtain ⟨hq, rfl⟩ := eq_symbol hq
  obtain ⟨hr, rfl⟩ := eq_symbol hr
  obtain ⟨hs, rfl⟩ := eq_symbol hs
  refine ⟨.ofNat (p * 4 + q / 16), .ofNat (q % 16 * 16 + r / 4),
    .ofNat (r % 4 * 64 + s), ?_, ?_⟩
  · simp only [quartet, UInt8.toNat_ofNat', List.cons.injEq, and_true]
    refine ⟨congrArg symbol ?_, congrArg symbol ?_, congrArg symbol ?_,
      congrArg symbol ?_⟩ <;> omega
  · simp only [UInt8.toNat_ofNat']
    omega

theorem leading?_eq_some_iff {count unit : Nat} :
    leading? count unit bits = some bytes
      ↔ bits % unit = 0 ∧ bytes = (octets bits).take count := by
  unfold leading?
  split <;> simp_all [eq_comm]

/-- With one byte missing, its bits must be zero. -/
theorem leading?_two_iff {a b c : UInt8} :
    leading? 2 256 (a.toNat * 65536 + b.toNat * 256 + c.toNat) = some bytes
      ↔ c = 0 ∧ bytes = [a, b] := by
  have hc := c.toNat_lt
  have hzero : (a.toNat * 65536 + b.toNat * 256 + c.toNat) % 256 = 0
      ↔ c = 0 := by
    rw [← UInt8.toNat_inj]
    show _ ↔ c.toNat = 0
    omega
  rw [leading?_eq_some_iff, hzero, octets_eq]
  rfl

/-- With two missing, the bits of both. -/
theorem leading?_one_iff {a b c : UInt8} :
    leading? 1 65536 (a.toNat * 65536 + b.toNat * 256 + c.toNat) = some bytes
      ↔ (b = 0 ∧ c = 0) ∧ bytes = [a] := by
  have hb := b.toNat_lt
  have hc := c.toNat_lt
  have hzero : (a.toNat * 65536 + b.toNat * 256 + c.toNat) % 65536 = 0
      ↔ b = 0 ∧ c = 0 := by
    rw [← UInt8.toNat_inj, ← UInt8.toNat_inj]
    show _ ↔ b.toNat = 0 ∧ c.toNat = 0
    omega
  rw [leading?_eq_some_iff, hzero, octets_eq]
  rfl

-- ================================================================ texts

/-- Four characters for every group of three bytes, a started one
included. -/
theorem length_encode (bytes : List UInt8) :
    (encode bytes).length = 4 * ((bytes.length + 2) / 3) := by
  induction bytes using encode.induct with
  | case1 => simp [encode]
  | case2 a => simp [encode]
  | case3 a b => simp [encode]
  | case4 a b c rest ih =>
      simp only [encode, List.length_cons, ih]
      omega

theorem encode_one (a : UInt8) :
    encode [a] = (quartet a 0 0).take 2 ++ List.replicate 2 '=' := rfl

theorem encode_two (a b : UInt8) :
    encode [a, b] = (quartet a b 0).take 3 ++ List.replicate 1 '=' := rfl

theorem encode_append (a b c : UInt8) (rest : List UInt8) :
    encode (a :: b :: c :: rest) = quartet a b c ++ encode rest := rfl

/-- Whatever the bytes, their text is characters of the alphabet and as
many equals signs as bytes are missing in the last group. -/
theorem exists_digits (bytes : List UInt8) :
    ∃ digits, encode bytes
        = digits ++ List.replicate ((3 - bytes.length % 3) % 3) '='
      ∧ ∀ c ∈ digits, c ∈ alphabet := by
  induction bytes using encode.induct with
  | case1 => exact ⟨[], rfl, by simp⟩
  | case2 a =>
      exact ⟨_, encode_one a, fun d hd =>
        mem_alphabet_of_mem_quartet (List.mem_of_mem_take hd)⟩
  | case3 a b =>
      exact ⟨_, encode_two a b, fun d hd =>
        mem_alphabet_of_mem_quartet (List.mem_of_mem_take hd)⟩
  | case4 a b c rest ih =>
      obtain ⟨digits, hrest, hdigits⟩ := ih
      have hlength : (a :: b :: c :: rest).length % 3 = rest.length % 3 :=
        Nat.add_mod_right rest.length 3
      refine ⟨quartet a b c ++ digits, ?_, fun d hd => ?_⟩
      · rw [encode_append, hrest, hlength, List.append_assoc]
      · exact (List.mem_append.1 hd).elim mem_alphabet_of_mem_quartet
          (hdigits d)

/-- What is written is of the alphabet, or padding. -/
theorem mem_encode {c : Char} (h : c ∈ encode bytes) :
    c ∈ alphabet ∨ c = '=' := by
  obtain ⟨digits, htext, hdigits⟩ := exists_digits bytes
  rw [htext, List.mem_append] at h
  exact h.imp (hdigits c) List.eq_of_mem_replicate

/-- Bytes are read back from what is written for them. -/
theorem decode?_encode (bytes : List UInt8) :
    decode? (encode bytes) = some bytes := by
  induction bytes using encode.induct with
  | case1 => rfl
  | case2 a =>
      rw [encode, decode?, if_neg (by simp), if_neg (by simp),
        if_neg (by simp), ← quartet_zero_zero, group?_quartet,
        Option.bind_some, leading?_one_iff]
      exact ⟨⟨rfl, rfl⟩, rfl⟩
  | case3 a b =>
      have hb := b.toNat_lt
      have hy : symbol (b.toNat % 16 * 4) ≠ '=' := symbol_ne _ (by omega)
      rw [encode, decode?, if_neg (by simp), if_neg (by simp), if_pos hy,
        ← quartet_zero, group?_quartet, Option.bind_some, leading?_two_iff]
      exact ⟨rfl, rfl⟩
  | case4 a b c rest ih =>
      have hz : symbol (c.toNat % 64) ≠ '=' := symbol_ne _ (by omega)
      rw [encode, decode?, if_pos hz, ih]
      show (group? (quartet a b c)).bind _ = _
      rw [group?_quartet, Option.bind_some, octets_eq]
      rfl

/-- Text from which bytes are read is what is written for them. -/
theorem eq_encode_of_decode? (h : decode? text = some bytes) :
    text = encode bytes := by
  -- as the decoder goes, four characters at a time; only the last four may be
  -- padded
  fun_induction decode? text generalizing bytes with
  | case1 =>
      cases h
      rfl
  | case2 w x y z rest hz ih =>
      obtain ⟨bits, hbits, h⟩ := Option.bind_eq_some_iff.1 h
      obtain ⟨more, hmore, rfl⟩ := Option.map_eq_some_iff.1 h
      obtain ⟨a, b, c, hquartet, rfl⟩ := exists_quartet hbits
      rw [octets_eq, ih hmore]
      exact congrArg (· ++ encode more) hquartet
  | case3 => cases h
  | case4 w x y z rest hz hrest hy =>
      obtain ⟨bits, hbits, h⟩ := Option.bind_eq_some_iff.1 h
      obtain ⟨a, b, c, hquartet, rfl⟩ := exists_quartet hbits
      obtain ⟨rfl, rfl⟩ := leading?_two_iff.1 h
      obtain rfl := Classical.not_not.1 hz
      obtain rfl := Classical.not_not.1 hrest
      have hdigits : [w, x, y] = (quartet a b 0).take 3 :=
        congrArg (List.take 3) hquartet
      rw [encode_two, ← hdigits]
      rfl
  | case5 w x y z rest hz hrest hy =>
      obtain ⟨bits, hbits, h⟩ := Option.bind_eq_some_iff.1 h
      obtain ⟨a, b, c, hquartet, rfl⟩ := exists_quartet hbits
      obtain ⟨⟨rfl, rfl⟩, rfl⟩ := leading?_one_iff.1 h
      obtain rfl := Classical.not_not.1 hz
      obtain rfl := Classical.not_not.1 hrest
      obtain rfl := Classical.not_not.1 hy
      have hdigits : [w, x] = (quartet a 0 0).take 2 :=
        congrArg (List.take 2) hquartet
      rw [encode_one, ← hdigits]
      rfl
  | case6 => cases h

/-- Text stands for the bytes that it is written for. Every other text is
refused. -/
theorem decode?_eq_some_iff : decode? text = some bytes
    ↔ text = encode bytes := by
  constructor
  · exact eq_encode_of_decode?
  · rintro rfl
    exact decode?_encode bytes

-- The bits behind the only byte must be zero.
example : decode? ['/', 'w', '=', '='] = some [255]
    ∧ decode? ['/', 'x', '=', '='] = none := by
  decide

end PairingHarness.Text.Base64
