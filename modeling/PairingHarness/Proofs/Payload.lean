/-
What a random payload carries, and how long it is.

A payload is the Base64 text of the bytes that were drawn, all of it in
ASCII, so its characters are as many as its bytes
(`utf8ByteSize_printable`): four for every three of those drawn, and
never less than those. The bytes are read back from it and from no other
text, so a check that a relayed message is the one that was sent is
passed exactly by a message that still carries every byte
(`printable_carries`).

The size matters twice: the numbered exchange must stay below the
largest payload that the service promises to relay, and the oversized
one must go past it. Both use the bound from below
(`length_le_printable`), for which no exact size is needed.
-/
import Mathlib.Algebra.Order.Floor.Div
import PairingHarness.Payload
import PairingHarness.Proofs.Scenario.Checks
import PairingHarness.Proofs.Text.Base64

namespace PairingHarness.Payload

open Scenario (expectMessage expectMessage_of_eq expectMessage_of_ne)
open Text.Base64 (alphabet decode? decode?_eq_some_iff exists_digits
  length_encode mem_encode)

variable {cs : List Char} {text : String} {bytes : List UInt8}

-- =============================================================== length

/-- Where every character takes one byte, a text has as many bytes as
characters. -/
theorem utf8ByteSize_of_ascii (h : ∀ c ∈ cs, c.utf8Size = 1) :
    (String.ofList cs).utf8ByteSize = cs.length := by
  induction cs with
  | nil => simp
  | cons c cs ih =>
      rw [List.forall_mem_cons] at h
      rw [String.ofList_cons, String.utf8ByteSize_append,
        String.utf8ByteSize_singleton, ih h.2, h.1, List.length_cons]
      omega

/-- All characters of the alphabet take one byte, the padding included. -/
theorem utf8Size_of_mem_alphabet {c : Char} (h : c ∈ alphabet) :
    c.utf8Size = 1 := by
  have hall : alphabet.all (·.utf8Size == 1) = true := by decide
  exact eq_of_beq (List.all_eq_true.1 hall c h)

/-- A payload has four characters for every three bytes, the last group
filled up. -/
theorem length_printable (bytes : List UInt8) :
    (printable bytes).length = 4 * (bytes.length ⌈/⌉ 3) := by
  unfold printable
  rw [String.length_ofList, length_encode, Nat.ceilDiv_eq_add_pred_div]
  rfl

/-- A payload has a byte for each of its characters. -/
theorem utf8ByteSize_printable (bytes : List UInt8) :
    (printable bytes).utf8ByteSize = (printable bytes).length := by
  unfold printable
  rw [String.length_ofList]
  refine utf8ByteSize_of_ascii fun c hc => ?_
  rcases mem_encode hc with hc | rfl
  · exact utf8Size_of_mem_alphabet hc
  · rfl

/-- A payload has as many bytes as it was drawn from, or more. -/
theorem length_le_printable (bytes : List UInt8) :
    bytes.length ≤ (printable bytes).utf8ByteSize := by
  rw [utf8ByteSize_printable, length_printable, Nat.ceilDiv_eq_add_pred_div]
  omega

-- ============================================================== reading

/-- A text decodes to some bytes exactly where it is their payload. -/
theorem decode?_toList_iff :
    decode? text.toList = some bytes ↔ text = printable bytes := by
  unfold printable
  rw [decode?_eq_some_iff, ← String.toList_inj, String.toList_ofList]

/-- Payloads are equal where the bytes are, so comparing payloads compares
bytes. -/
theorem printable_inj {other : List UInt8} :
    printable other = printable bytes ↔ other = bytes := by
  have hother : decode? (printable other).toList = some other :=
    decode?_toList_iff.2 rfl
  rw [← decode?_toList_iff, hother, Option.some.injEq]

/-- Whatever the bytes, their payload is characters of the alphabet with
the equals signs that fill it up to groups of four, it has four
characters, of a byte each, for every three bytes or a part of them, and
the bytes are read back from it. Other bytes have another payload, and a
relayed message passes for the payload exactly if it carries the bytes. -/
theorem printable_carries (bytes : List UInt8) :
    (∃ digits, (printable bytes).toList
        = digits ++ List.replicate ((3 - bytes.length % 3) % 3) '='
      ∧ ∀ c ∈ digits, c ∈ alphabet)
    ∧ (printable bytes).length = 4 * (bytes.length ⌈/⌉ 3)
    ∧ (printable bytes).utf8ByteSize = 4 * (bytes.length ⌈/⌉ 3)
    ∧ bytes.length ≤ (printable bytes).utf8ByteSize
    ∧ decode? (printable bytes).toList = some bytes
    ∧ (∀ other, printable other = printable bytes ↔ other = bytes)
    ∧ ∀ (frame : RelayFrame) (context : String) (w : Network.World),
      (expectMessage frame (printable bytes) context w).1 = .done ()
        ↔ decode? frame.message.toList = some bytes := by
  have hlength := length_printable bytes
  refine ⟨?_, hlength, (utf8ByteSize_printable bytes).trans hlength,
    length_le_printable bytes, decode?_toList_iff.2 rfl,
    fun _ => printable_inj, fun frame context w => ?_⟩
  · obtain ⟨digits, htext, hdigits⟩ := exists_digits bytes
    exact ⟨digits, by rw [printable, String.toList_ofList, htext], hdigits⟩
  · rw [decode?_toList_iff]
    by_cases h : frame.message = printable bytes
    · rw [expectMessage_of_eq h]
      exact iff_of_true rfl h
    · rw [expectMessage_of_ne h]
      exact iff_of_false (fun h' => by cases h') h

end PairingHarness.Payload
