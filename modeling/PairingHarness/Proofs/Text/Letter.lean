/-
What making letters small or capital changes.

Only the ASCII letters change, each to the letter thirty-two places on or
back (`toNat_toLower`, `toNat_toUpper`). So making a text small twice is
the same as once, a character that is no capital is still there
afterwards, and of two changes of case the last one counts.

Names of options and variables are compared in small letters and written
in capitals, and the lemmas on whole texts are what those comparisons
use; they come from the ones on single letters by going through the
text.
-/
import Mathlib.Tactic.SplitIfs
import PairingHarness.Text.Letter

namespace PairingHarness.Text

-- ====================================================== one character

/-- A capital letter becomes the small one, thirty-two places on; nothing
else changes. -/
theorem toNat_toLower (c : Char) :
    c.toLower.toNat
      = if 65 ≤ c.toNat ∧ c.toNat ≤ 90 then c.toNat + 32 else c.toNat := by
  unfold Char.toLower
  split
  · next h =>
    have hge : 65 ≤ c.toNat := h.1
    have hle : c.toNat ≤ 90 := h.2
    rw [if_pos ⟨hge, hle⟩]
    show (c.val + 32).toNat = c.toNat + 32
    rw [UInt32.toNat_add]
    show (c.toNat + 32) % 4294967296 = _
    omega
  · next h => exact (if_neg h).symm

/-- A small letter becomes the capital one, thirty-two places back. -/
theorem toNat_toUpper (c : Char) :
    c.toUpper.toNat
      = if 97 ≤ c.toNat ∧ c.toNat ≤ 122 then c.toNat - 32 else c.toNat := by
  unfold Char.toUpper
  split
  · next h =>
    have hge : 97 ≤ c.toNat := h.1
    have hle : c.toNat ≤ 122 := h.2
    rw [if_pos ⟨hge, hle⟩]
    show (c.val + 4294967264).toNat = c.toNat - 32
    rw [UInt32.toNat_add]
    show (c.toNat + 4294967264) % 4294967296 = _
    omega
  · next h => exact (if_neg h).symm

theorem toLower_toLower (c : Char) : c.toLower.toLower = c.toLower := by
  refine Char.toNat_inj.1 ?_
  rw [toNat_toLower, toNat_toLower]
  split_ifs <;> omega

theorem toUpper_toLower (c : Char) : c.toLower.toUpper = c.toUpper := by
  refine Char.toNat_inj.1 ?_
  rw [toNat_toUpper, toNat_toUpper, toNat_toLower]
  split_ifs <;> omega

theorem toLower_toUpper (c : Char) : c.toUpper.toLower = c.toLower := by
  refine Char.toNat_inj.1 ?_
  rw [toNat_toLower, toNat_toLower, toNat_toUpper]
  split_ifs <;> omega

-- ============================================================== texts

theorem lower_lower (s : String) : lower (lower s) = lower s := by
  have hcomp : Char.toLower ∘ Char.toLower = Char.toLower :=
    funext toLower_toLower
  unfold lower
  rw [String.toList_ofList, List.map_map, hcomp]

/-- Of two changes the last one counts, -/
theorem upper_lower (s : String) : upper (lower s) = upper s := by
  have hcomp : Char.toUpper ∘ Char.toLower = Char.toUpper :=
    funext toUpper_toLower
  unfold upper lower
  rw [String.toList_ofList, List.map_map, hcomp]

/-- in either order. -/
theorem lower_upper (s : String) : lower (upper s) = lower s := by
  have hcomp : Char.toLower ∘ Char.toUpper = Char.toLower :=
    funext toLower_toUpper
  unfold lower upper
  rw [String.toList_ofList, List.map_map, hcomp]

/-- A character that is no capital is still there in the small text. -/
theorem mem_lower {s : String} {c : Char} (h : c ∈ s.toList)
    (hnone : ¬(65 ≤ c.toNat ∧ c.toNat ≤ 90)) : c ∈ (lower s).toList := by
  have hkept : c.toLower = c := by
    refine Char.toNat_inj.1 ?_
    rw [toNat_toLower, if_neg hnone]
  unfold lower
  rw [String.toList_ofList, List.mem_map]
  exact ⟨c, h, hkept⟩

end PairingHarness.Text
