/-
Bytes as text: UTF-8 with the place and kind of the first fault.

A sequence of bytes is text when it splits into the encodings of code
points, each in its shortest form, no surrogates and nothing beyond
U+10FFFF. Where it does not, the fault names the index of the first byte
that is not part of such a split and how many bytes a reader would give up
there: one to three for a sequence that goes wrong, none for one that the
end of the bytes cuts off.
-/

namespace PairingHarness.Text.Utf8

-- ================================================================ faults

/-- Why bytes are no text. -/
structure Fault where
  /-- How many bytes before the fault are text. -/
  index : Nat
  /-- The length of the bad sequence, or nothing where the bytes end inside
  a sequence. -/
  length : Option Nat
  deriving DecidableEq, Repr

def Fault.message (f : Fault) : String :=
  match f.length with
  | some n =>
    "invalid utf-8 sequence of " ++ toString n ++ " bytes from index "
      ++ toString f.index
  | none => "incomplete utf-8 byte sequence from index " ++ toString f.index

-- ============================================================= sequences

/-- A sequence begun and not yet complete. -/
structure Pending where
  start : Nat
  seen : Nat
  /-- How many are still to come, less one. -/
  missing : Nat
  value : Nat
  low : Nat
  high : Nat
  deriving DecidableEq, Repr

/-- The sequence that a byte outside ASCII begins at an index. The bounds on
the second byte keep the form shortest, off the surrogates and within range.
-/
def begin? (index lead : Nat) : Option Pending :=
  if lead < 0xc2 then none
  else if lead < 0xe0 then some ⟨index, 1, 0, lead - 0xc0, 0x80, 0xbf⟩
  else if lead < 0xf0 then
    some ⟨index, 1, 1, lead - 0xe0, if lead = 0xe0 then 0xa0 else 0x80,
      if lead = 0xed then 0x9f else 0xbf⟩
  else if lead < 0xf5 then
    some ⟨index, 1, 2, lead - 0xf0, if lead = 0xf0 then 0x90 else 0x80,
      if lead = 0xf4 then 0x8f else 0xbf⟩
  else none

/-- The text of the bytes from `index` on, a sequence before them being open
or not. -/
def decodeFrom (index : Nat) :
    Option Pending → List UInt8 → Except Fault (List Char)
  | none, [] => .ok []
  | some p, [] => .error ⟨p.start, none⟩
  | none, b :: rest =>
    if b.toNat < 0x80 then
      (decodeFrom (index + 1) none rest).map (Char.ofNat b.toNat :: ·)
    else match begin? index b.toNat with
      | none => .error ⟨index, some 1⟩
      | some p => decodeFrom (index + 1) (some p) rest
  | some p, b :: rest =>
    if p.low ≤ b.toNat ∧ b.toNat ≤ p.high then
      let value := p.value * 0x40 + (b.toNat - 0x80)
      if p.missing = 0 then
        (decodeFrom (index + 1) none rest).map (Char.ofNat value :: ·)
      else decodeFrom (index + 1)
        (some ⟨p.start, p.seen + 1, p.missing - 1, value, 0x80, 0xbf⟩) rest
    else .error ⟨p.start, some p.seen⟩

/-- The text that the bytes hold, or the first fault. -/
def decode (bytes : List UInt8) : Except Fault String :=
  (decodeFrom 0 none bytes).map String.ofList

/-- How many bytes the characters take. -/
def size (cs : List Char) : Nat :=
  cs.foldl (fun n c => n + c.utf8Size) 0

end PairingHarness.Text.Utf8
