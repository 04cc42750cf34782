/-
What the line of a process tells.

Everything in the line but the name of the command is ASCII, and a byte of
ASCII is no part of a longer sequence, so the line is text exactly where
the name is (`text_line`), whatever stands in the name. What follows the
last closing parenthesis is then what the host put behind the name: the
letter for the state and the number of the parent (`read_line`).

The name is the only part of the line that a process chooses, and it is
given as bytes. It may hold blanks, line breaks, parentheses and even
the look of a whole line; the reader goes to the last closing
parenthesis, and since no field after the name has one, it always finds
the end of the name (`read_proc_stat`).
-/
import PairingHarness.Host.Stat
import PairingHarness.Proofs.Decimal
import PairingHarness.Proofs.Text.Blank
import PairingHarness.Proofs.Text.Utf8

namespace PairingHarness.Host.Stat

open Text.Utf8 (Pending decodeFrom begin? Fault)

variable {i j : Nat} {name bytes : List UInt8} {state : Char} {pid parent : Pid}
  {t w rest : List Char}

-- ======================================================== ASCII as bytes

/-- A character as a byte. -/
def byte (c : Char) : UInt8 :=
  UInt8.ofNat c.toNat

/-- Whether characters are all ASCII. -/
def IsAscii (t : List Char) : Prop :=
  ∀ c ∈ t, c.toNat < 0x80

/-- A character of ASCII is one byte with its own number. -/
theorem toNat_byte {c : Char} (h : c.toNat < 0x80) :
    (byte c).toNat = c.toNat := by
  unfold byte
  rw [UInt8.toNat_ofNat']
  omega

/-- It is decoded as itself and leaves nothing open. -/
theorem decodeFrom_byte {c : Char} (h : c.toNat < 0x80) (i : Nat)
    (rest : List UInt8) : decodeFrom i none (byte c :: rest)
      = (decodeFrom (i + 1) none rest).map (c :: ·) := by
  rw [decodeFrom, toNat_byte h, if_pos h, Char.ofNat_toNat]

/-- The text of bytes, if they are text. -/
def text? (i : Nat) (pending : Option Pending) (bytes : List UInt8) :
    Option (List Char) :=
  (decodeFrom i pending bytes).toOption

theorem toOption_map {α β : Type} (r : Except Fault α) (f : α → β) :
    (r.map f).toOption = r.toOption.map f := by
  cases r <;> rfl

/-- The same, where only success counts. -/
theorem text?_byte {c : Char} (h : c.toNat < 0x80) (i : Nat)
    (rest : List UInt8) : text? i none (byte c :: rest)
      = (text? (i + 1) none rest).map (c :: ·) := by
  unfold text?
  rw [decodeFrom_byte h, toOption_map]

/-- ASCII in front is read as it stands. -/
theorem text?_ascii_append (h : IsAscii t) (i : Nat)
    (rest : List UInt8) : text? i none (t.map byte ++ rest)
      = (text? (i + t.length) none rest).map (t ++ ·) := by
  induction t generalizing i with
  | nil => simp
  | cons c t ih =>
      obtain ⟨hc, ht⟩ := List.forall_mem_cons.1 h
      rw [List.map_cons, List.cons_append, text?_byte hc, ih ht,
        Option.map_map, List.length_cons, Nat.add_right_comm, Nat.add_assoc]
      rfl

/-- What an open sequence needs next is outside ASCII. -/
def Waits (pending : Option Pending) : Prop :=
  ∀ p, pending = some p → 0x80 ≤ p.low

/-- Nothing is under way at the start of a sequence. -/
theorem waits_none : Waits none :=
  fun _ h => by cases h

/-- What a first byte leaves open waits for a byte that is no ASCII, so no
such byte can be taken for the rest of it. -/
theorem waits_begin? {a : Nat} {p : Pending} (h : begin? i a = some p) :
    Waits (some p) := by
  have hlow : 0x80 ≤ p.low := by
    unfold begin? at h
    split at h
    · cases h
    · split at h
      · cases h
        exact Nat.le_refl _
      · split at h
        · cases h
          dsimp only
          split <;> omega
        · split at h
          · cases h
            dsimp only
            split <;> omega
          · cases h
  intro p' hp'
  cases hp'
  exact hlow

/-- ASCII behind is read as it stands, if what comes before is text. -/
theorem text?_append_ascii (ht : IsAscii t) (hne : t ≠ []) (i : Nat)
    {pending : Option Pending} (hwaits : Waits pending)
    (bytes : List UInt8) : text? i pending (bytes ++ t.map byte)
      = (text? i pending bytes).map (· ++ t) := by
  have hend : ∀ i, text? i none (t.map byte) = some t := by
    intro i
    rw [← List.append_nil (t.map byte), text?_ascii_append ht]
    simp [text?, decodeFrom, Except.toOption]
  -- on the bytes before, whatever sequence is under way at them
  induction bytes generalizing i pending with
  | nil =>
      cases pending with
      | none => simpa [text?, decodeFrom, Except.toOption] using hend i
      -- a sequence is cut short: no ASCII byte lies in the bounds it waits
      -- for
      | some p =>
          obtain ⟨c, t, rfl⟩ := List.exists_cons_of_ne_nil hne
          have hc := ht c List.mem_cons_self
          have hlow := hwaits p rfl
          have hbyte := toNat_byte hc
          have hout : ¬(p.low ≤ (byte c).toNat ∧ (byte c).toNat ≤ p.high) := by
            omega
          simp [text?, decodeFrom, hout, Except.toOption]
  | cons b bytes ih =>
      unfold text? at ih ⊢
      cases pending with
      | none =>
          rw [List.cons_append, decodeFrom, decodeFrom]
          split
          · rw [toOption_map, toOption_map, ih (i + 1) waits_none,
              Option.map_map, Option.map_map]
            rfl
          -- a byte that begins a sequence leaves one waiting, which the
          -- induction allows for
          · cases hbegin : begin? i b.toNat with
            | none => rfl
            | some p => exact ih (i + 1) (waits_begin? hbegin)
      | some p =>
          rw [List.cons_append, decodeFrom, decodeFrom]
          split
          · dsimp only
            split
            · rw [toOption_map, toOption_map, ih (i + 1) waits_none,
                Option.map_map, Option.map_map]
              rfl
            · refine ih (i + 1) fun p' hp' => ?_
              cases hp'
              exact Nat.le_refl _
          · rfl

/-- Where text begins makes no difference to what it is. -/
theorem text?_eq (i j : Nat) (bytes : List UInt8) :
    text? i none bytes = text? j none bytes := by
  have hsome : ∀ {i j cs}, decodeFrom i none bytes = .ok cs →
      decodeFrom j none bytes = .ok cs := by
    intro i j cs h
    rw [Text.Utf8.encode_of_decodeFrom cs h]
    exact Text.Utf8.decodeFrom_encode cs j
  unfold text?
  cases hi : decodeFrom i none bytes with
  | ok cs => rw [hsome hi]
  | error f =>
      cases hj : decodeFrom j none bytes with
      | ok cs =>
          rw [hsome hj] at hi
          cases hi
      | error f' => rfl

-- =============================================================== the line

/-- Two texts of ASCII make one. -/
theorem isAscii_append (h : IsAscii t) (h' : IsAscii w) :
    IsAscii (t ++ w) :=
  fun c hc => (List.mem_append.1 hc).elim (h c) (h' c)

/-- Numerals are ASCII. -/
theorem isAscii_toDigits (n : Nat) : IsAscii (Nat.toDigits 10 n) := by
  intro c hc
  have hdigit := Decimal.isDigit_of_mem_toDigits hc
  exact Nat.lt_of_le_of_lt (Char.isDigit_iff_toNat.1 hdigit).2 (by decide)

/-- What stands behind the name, its closing parenthesis apart. -/
def fields (state : Char) (parent : Pid) (more : List Char) : List Char :=
  ' ' :: state :: ' ' :: (Nat.toDigits 10 parent ++ more)

/-- The line is text where the name is. -/
theorem text_line (hstate : state.toNat < 0x80) {more : String}
    (hmore : IsAscii more.toList) :
    text? 0 none (line pid name state parent more)
      = (text? 0 none name).map fun text =>
        Nat.toDigits 10 pid ++ [' ', '('] ++ text
          ++ ')' :: fields state parent more.toList := by
  have hascii : ∀ s : String, ascii s = s.toList.map byte := fun _ => rfl
  have hbefore : ascii (toString pid ++ " (")
      = (Nat.toDigits 10 pid ++ [' ', '(']).map byte := by
    simp [hascii]
  have hafter : ascii (") " ++ String.singleton state ++ " "
        ++ toString parent ++ more)
      = (')' :: fields state parent more.toList).map byte := by
    simp [hascii, fields]
  have hfront : IsAscii (Nat.toDigits 10 pid ++ [' ', '(']) :=
    isAscii_append (isAscii_toDigits pid) (by simp [IsAscii])
  have hback : IsAscii (')' :: fields state parent more.toList) := by
    have hnumbers := isAscii_append (isAscii_toDigits parent) hmore
    simp only [IsAscii, fields, List.forall_mem_cons]
    exact ⟨by decide, by decide, hstate, by decide, hnumbers⟩
  unfold line
  rw [hbefore, hafter, List.append_assoc, text?_ascii_append hfront,
    text?_append_ascii hback (by simp) _ waits_none, text?_eq _ 0,
    Option.map_map]
  simp [Function.comp_def]

/-- The last closing parenthesis is that behind the name, if what follows
has none. -/
theorem afterName?_append (h : ')' ∉ rest) (front : List Char) :
    afterName? (front ++ ')' :: rest) = some rest := by
  unfold afterName?
  have hmem : (front ++ ')' :: rest).contains ')' = true := by simp
  rw [if_pos hmem, List.reverse_append, List.reverse_cons]
  have hall : ∀ c ∈ rest.reverse, decide (c ≠ ')') = true := by
    intro c hc
    have hne : c ≠ ')' := by
      rintro rfl
      exact h (List.mem_reverse.1 hc)
    simpa using hne
  rw [List.append_assoc, List.takeWhile_append_of_pos hall]
  simp

/-- The first word is what stands before the next blank. -/
theorem splitWord_word (hne : w ≠ []) (hw : ∀ c ∈ w, Text.isBlank c = false)
    (hrest : ∀ c ∈ rest.head?, Text.isBlank c = true) :
    splitWord (' ' :: (w ++ rest)) = (w, rest) := by
  have hspace : Text.isBlank ' ' = true := by decide
  have hfront : (' ' :: (w ++ rest)).dropWhile Text.isBlank = w ++ rest := by
    obtain ⟨c, w, rfl⟩ := List.exists_cons_of_ne_nil hne
    simp [hspace, hw c List.mem_cons_self]
  have hall : ∀ c ∈ w, (!Text.isBlank c) = true := fun c hc => by
    simp [hw c hc]
  unfold splitWord
  dsimp only
  rw [hfront, List.takeWhile_append_of_pos hall,
    List.dropWhile_append_of_pos hall]
  cases rest with
  | nil => simp
  | cons c rest => simp [hrest c rfl]

/-- What is read from the line of a process whose name is text: its state
and its parent, if the number of the parent is within its width. -/
theorem read_line (hstate : state.toNat < 0x80)
    (hblank : Text.isBlank state = false) (hclose : state ≠ ')')
    {more : String} (hascii : IsAscii more.toList)
    (hmore : ')' ∉ more.toList)
    (hhead : ∀ c ∈ more.toList.head?, Text.isBlank c = true) :
    read (line pid name state parent more)
      = if (text? 0 none name).isSome ∧ parent ≤ Decimal.maxWord32
        then some (state, parent) else none := by
  have hdigits : ∀ c ∈ Nat.toDigits 10 parent, c.isDigit = true :=
    fun c hc => Decimal.isDigit_of_mem_toDigits hc
  -- the reader goes by the last bracket, and nothing behind the name has one
  have hopen : ')' ∉ fields state parent more.toList := by
    have hparent : ')' ∉ Nat.toDigits 10 parent :=
      fun h => absurd (hdigits _ h) (by decide)
    simp [fields, hparent, hmore, hclose.symm]
  have hfirst : splitWord (fields state parent more.toList)
      = ([state], ' ' :: (Nat.toDigits 10 parent ++ more.toList)) :=
    splitWord_word (w := [state]) (by simp) (by simpa using hblank)
      (by simp; decide)
  have hsecond : splitWord (' ' :: (Nat.toDigits 10 parent ++ more.toList))
      = (Nat.toDigits 10 parent, more.toList) :=
    splitWord_word Nat.toDigits_ne_nil
      (fun c hc => Text.isBlank_of_isDigit (hdigits c hc)) hhead
  have htext : text? 0 none (line pid name state parent more) = _ :=
    text_line hstate hascii
  unfold text? at htext ⊢
  unfold read
  rw [htext]
  cases (decodeFrom 0 none name).toOption with
  | none => rfl
  | some text =>
      simp only [Option.map_some, Option.bind_eq_bind, Option.bind_some,
        afterName?_append hopen, hfirst, hsecond, Decimal.read_toDigits,
        List.head?_cons, Option.isSome_some, true_and]
      split <;> rfl

/-- Bytes are a text where some text is encoded by them. -/
theorem isSome_text?_iff : (text? 0 none name).isSome = true
    ↔ ∃ text, Text.Utf8.encode text = name := by
  unfold text?
  constructor
  · intro h
    cases hname : decodeFrom 0 none name with
    | ok cs =>
        refine ⟨String.ofList cs, ?_⟩
        rw [Text.Utf8.encode, String.toList_ofList]
        exact (Text.Utf8.encode_of_decodeFrom cs hname).symm
    | error f =>
        rw [hname] at h
        cases h
  · rintro ⟨text, rfl⟩
    rw [Text.Utf8.encode, Text.Utf8.decodeFrom_encode]
    rfl

/-- The line of a process can be read: its name is text and the number of
its parent is within its width. -/
def Legible (e : Entry) : Prop :=
  (∃ text, Text.Utf8.encode text = e.name) ∧ e.parent ≤ Decimal.maxWord32

/-- A line that can be read tells the state and the parent. -/
theorem read_ofEntry_iff {e : Entry} {r : Char × Pid} :
    read (ofEntry e) = some r ↔ Legible e ∧ r = (letter e, e.parent) := by
  have hread : read (ofEntry e)
      = if (text? 0 none e.name).isSome ∧ e.parent ≤ Decimal.maxWord32
        then some (letter e, e.parent) else none := by
    unfold ofEntry letter
    have hascii : IsAscii " 0 0 0".toList := by
      simp [IsAscii]
    have hblank : Text.isBlank ' ' = true := by decide
    split <;>
      exact read_line (by decide) (by decide) (by decide) hascii (by simp)
        (by simpa using hblank)
  have hlegible : Legible e ↔ (text? 0 none e.name).isSome = true
      ∧ e.parent ≤ Decimal.maxWord32 :=
    and_congr_left' isSome_text?_iff.symm
  rw [hread, hlegible]
  split
  · rename_i h
    simp [h, eq_comm]
  · rename_i h
    simp [h]

end PairingHarness.Host.Stat
