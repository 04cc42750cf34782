/-
Texts in the order of their bytes.

Texts are compared character by character, and their encodings stand in
the same order, byte by byte (`encode_lt_encode_iff`). For two characters
a byte decides in which their encodings differ, so neither encoding is the
start of the other and what follows has no say
(`encodeChar_append_lt`).

It is needed because keys are ordered by their bytes in the program and
by their characters in the statements about them. Encodings longer by a
byte begin with a greater one, which is what makes the two orders one.
-/
import Mathlib.Tactic.SplitIfs
import PairingHarness.Proofs.Text.Utf8

namespace PairingHarness.Text.Utf8

-- ===================================================== two characters

/-- Bytes are compared by their numbers. -/
theorem ofNat_cons_lt_iff {m n : Nat} (hm : m < 256) (hn : n < 256)
    {xs ys : List UInt8} :
    UInt8.ofNat m :: xs < UInt8.ofNat n :: ys ↔ m < n ∨ m = n ∧ xs < ys := by
  rw [List.cons_lt_cons_iff, UInt8.lt_iff_toNat_lt, ← UInt8.toNat_inj,
    UInt8.toNat_ofNat', UInt8.toNat_ofNat', Nat.mod_eq_of_lt hm,
    Nat.mod_eq_of_lt hn]

/-- The lesser of two characters has the lesser encoding, whatever
follows. -/
theorem encodeChar_append_lt {c d : Char} (h : c < d)
    (xs ys : List UInt8) :
    String.utf8EncodeChar c ++ xs < String.utf8EncodeChar d ++ ys := by
  have hlt : c.val.toNat < d.val.toNat := h
  have hrange : d.val.toNat < 0x110000 := by
    rcases d.valid with hd | hd <;> omega
  -- the bytes of a sequence are the digits of the character to base 64
  have htwo (n : Nat) : n / 4096 = n / 64 / 64 := by omega
  have hthree (n : Nat) : n / 262144 = n / 64 / 64 / 64 := by omega
  simp only [String.utf8EncodeChar, htwo, hthree]
  generalize c.val.toNat = v at *
  generalize d.val.toNat = w at *
  -- lead bytes tell lengths apart, and of equal lengths the digits decide
  split_ifs <;>
    simp (disch := omega) only [List.cons_append, List.nil_append,
      ofNat_cons_lt_iff] <;>
    omega

-- ========================================================== two texts

/-- The induction goes to the first character in which two texts differ, or
to the end of the shorter. -/
theorem flatMap_encodeChar_lt {cs ds : List Char} (h : cs < ds) :
    cs.flatMap String.utf8EncodeChar < ds.flatMap String.utf8EncodeChar := by
  induction cs generalizing ds with
  | nil =>
      cases ds with
      | nil => exact absurd h (List.lt_irrefl [])
      | cons d ds =>
          rw [List.flatMap_nil, List.flatMap_cons]
          cases hd : String.utf8EncodeChar d with
          | nil => exact absurd hd String.utf8EncodeChar_ne_nil
          | cons b bs => exact List.nil_lt_cons b _
  | cons c cs ih =>
      cases ds with
      | nil => exact absurd h (List.not_lt_nil _)
      | cons d ds =>
          rw [List.flatMap_cons, List.flatMap_cons]
          rcases List.cons_lt_cons_iff.1 h with hlt | ⟨rfl, hlt⟩
          · exact encodeChar_append_lt hlt _ _
          · exact List.append_left_lt (ih hlt)

/-- The bytes of texts stand in the order of the texts. -/
theorem encode_lt_encode_iff {s t : String} :
    encode s < encode t ↔ s < t := by
  refine ⟨fun h => ?_, flatMap_encodeChar_lt⟩
  by_cases hlt : s < t
  · exact hlt
  · rcases Std.lt_trichotomy s t with hst | rfl | hts
    · exact hst
    · exact absurd h (List.lt_irrefl _)
    · exact absurd h (List.lt_asymm (flatMap_encodeChar_lt hts))

theorem encode_le_encode_iff {s t : String} :
    encode s ≤ encode t ↔ s ≤ t :=
  not_congr encode_lt_encode_iff

end PairingHarness.Text.Utf8
