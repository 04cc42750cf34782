/-
Which processes a host tells of.

The line of a process is read as text, so what it tells depends on the name
that the process has given itself: a name of any characters, parentheses,
blanks and line breaks among them, hides nothing, and one whose bytes are no
text hides the process altogether (`tells_of_texts`). A name is cut off
after some bytes, so that one that was text need not be text any more
(`cutName_untold`).

Two questions are put to the line of a process: who is its parent, and
does it live. Both fail together, and only where the bytes of the name
are not text. A program with such a name is rare but not contrived: a
name of letters that take two bytes each is cut in the middle of one
where the bytes run out, whenever the room is odd.
-/
import PairingHarness.Proofs.Host.Kinship

namespace PairingHarness.Host

namespace Stat

variable {pid parent : Pid} {name : List UInt8} {state : Char}
  {more : String} {numbers : List Int} {bytes : List UInt8}

-- ======================================================= further numbers

/-- Numbers, a space in front of each. -/
def further (numbers : List Int) : String :=
  String.join (numbers.map fun n => " " ++ toString n)

/-- What follows the parent in a line: numbers, and a line break or none. -/
def IsFurther (more : String) : Prop :=
  ∃ numbers, more = further numbers ∨ more = further numbers ++ "\n"

/-- A character of a number. -/
def IsNumeric (c : Char) : Prop :=
  c.isDigit = true ∨ c = '-'

/-- A number is written with digits and perhaps a minus sign. -/
theorem isNumeric_of_mem_toString (n : Int) :
    ∀ c ∈ (toString n).toList, IsNumeric c := by
  have hnat : ∀ m : Nat, ∀ c ∈ (toString m).toList, c.isDigit = true := by
    intro m c hc
    rw [Nat.toString_eq_ofList_toDigits, String.toList_ofList] at hc
    exact Decimal.isDigit_of_mem_toDigits hc
  intro c hc
  cases n with
  | ofNat m => exact .inl (hnat m c hc)
  | negSucc m =>
      have hc : c ∈ ("-" ++ toString (m + 1)).toList := hc
      rw [String.toList_append, List.mem_append] at hc
      rcases hc with hc | hc
      · exact .inr (List.mem_singleton.1 hc)
      · exact .inl (hnat (m + 1) c hc)

/-- Each further field stands behind a blank. -/
theorem further_cons (n : Int) (numbers : List Int) :
    further (n :: numbers) = " " ++ toString n ++ further numbers := by
  simp [further, String.append_assoc]

/-- What is behind the parent is blanks and numbers. -/
theorem mem_further {c : Char} (hc : c ∈ (further numbers).toList) :
    c = ' ' ∨ IsNumeric c := by
  induction numbers with
  | nil => exact absurd hc (by simp [further])
  | cons n numbers ih =>
      rw [further_cons, String.toList_append, String.toList_append] at hc
      rcases List.mem_append.1 hc with hc | hc
      · rcases List.mem_append.1 hc with hc | hc
        · exact .inl (List.mem_singleton.1 hc)
        · exact .inr (isNumeric_of_mem_toString n c hc)
      · exact ih hc

/-- With the line break at its end. -/
theorem IsFurther.mem {c : Char} (h : IsFurther more)
    (hc : c ∈ more.toList) : c = ' ' ∨ c = '\n' ∨ IsNumeric c := by
  obtain ⟨numbers, rfl | rfl⟩ := h
  · exact (mem_further hc).imp_right .inr
  · rw [String.toList_append, List.mem_append] at hc
    rcases hc with hc | hc
    · exact (mem_further hc).imp_right .inr
    · exact .inr (.inl (List.mem_singleton.1 hc))

/-- All of this is ASCII, so it cannot spoil the text. -/
theorem IsFurther.isAscii (h : IsFurther more) : IsAscii more.toList := by
  intro c hc
  rcases h.mem hc with rfl | rfl | hdigit | rfl
  · decide
  · decide
  · exact Nat.lt_of_le_of_lt (Char.isDigit_iff_toNat.1 hdigit).2 (by decide)
  · decide

/-- And none of it is a closing parenthesis, so it cannot be taken for the
end of the name. -/
theorem IsFurther.not_mem (h : IsFurther more) : ')' ∉ more.toList := by
  intro hc
  rcases h.mem hc with heq | heq | hdigit | heq
  · exact absurd heq (by decide)
  · exact absurd heq (by decide)
  · exact absurd hdigit (by decide)
  · exact absurd heq (by decide)

/-- Whatever follows the parent is set off from it by a blank. -/
theorem IsFurther.head (h : IsFurther more) :
    ∀ c ∈ more.toList.head?, Text.isBlank c = true := by
  have hspace : Text.isBlank ' ' = true := by decide
  have hbreak : Text.isBlank '\n' = true := by decide
  obtain ⟨_ | ⟨n, numbers⟩, rfl | rfl⟩ := h
  · simp [further]
  · simpa [further] using hbreak
  · simpa [further_cons] using hspace
  · simpa [further_cons] using hspace

-- ========================================================== what is told

/-- Bytes that are text. -/
def IsText (bytes : List UInt8) : Prop :=
  ∃ text, Text.Utf8.encode text = bytes

/-- The letter of a state is a letter of ASCII. -/
theorem range_of_isAlpha (h : state.isAlpha = true) :
    65 ≤ state.toNat ∧ state.toNat ≤ 122 := by
  have h : (state.isUpper || state.isLower) = true := h
  rcases Bool.or_eq_true_iff.1 h with h | h
  · have hrange : 65 ≤ state.toNat ∧ state.toNat ≤ 90 :=
      of_decide_eq_true h
    omega
  · obtain ⟨hlow, hhigh⟩ := Bool.and_eq_true_iff.1 h
    have hlow : 97 ≤ state.toNat := of_decide_eq_true hlow
    have hhigh : state.toNat ≤ 122 := of_decide_eq_true hhigh
    omega

/-- A line tells the state and the parent where the name is text, and
nothing where it is not. -/
theorem read_line_of_isAlpha (pid : Pid) (name : List UInt8)
    (hstate : state.isAlpha = true) (hparent : parent < UInt32.size)
    (hmore : IsFurther more) :
    (IsText name →
        read (line pid name state parent more) = some (state, parent))
      ∧ (¬IsText name → read (line pid name state parent more) = none) := by
  obtain ⟨hlow, hhigh⟩ := range_of_isAlpha hstate
  have hblank : Text.isBlank state = false := by
    simp [Text.isBlank]
    omega
  have hclose : state ≠ ')' := by
    rintro rfl
    exact absurd hlow (by decide)
  have hwidth : parent ≤ Decimal.maxWord32 := Nat.le_sub_one_of_lt hparent
  rw [read_line (show state.toNat < 0x80 by omega) hblank hclose
    hmore.isAscii hmore.not_mem hmore.head]
  constructor
  · intro htext
    exact if_pos ⟨isSome_text?_iff.2 htext, hwidth⟩
  · intro htext
    exact if_neg fun h => htext (isSome_text?_iff.1 h.1)

/-- A process whose line can be read is alive unless its state says that it
has ended (`process_is_running`). -/
theorem tellsAlive_of_read (h : read bytes = some (state, parent)) :
    tellsAlive bytes = true ↔ state ≠ 'Z' ∧ state ≠ 'X' := by
  unfold tellsAlive isAlive
  rw [h]
  simp

/-- One whose line cannot be read is taken for one that is not there. -/
theorem tellsAlive_of_unread (h : read bytes = none) :
    tellsAlive bytes = false := by
  unfold tellsAlive
  rw [h]
  rfl

end Stat

-- ======================================================= the statement

/-- A host tells the state and the parent of a process, and whether it is
alive, just where the name of the process is text: that is so of each line
in the form in which a host writes it, and of each process on a host, whose
link to its parent is among those that are walked to find the tree. -/
theorem tells_of_texts (pid : Pid) (name : List UInt8) {state : Char}
    {parent : Pid} {more : String} (hstate : state.isAlpha = true)
    (hparent : parent < UInt32.size) (hmore : Stat.IsFurther more) :
    ((Stat.read (Stat.line pid name state parent more)
            = some (state, parent) ↔ Stat.IsText name)
        ∧ (Stat.tellsAlive (Stat.line pid name state parent more) = true
            ↔ Stat.IsText name ∧ state ≠ 'Z' ∧ state ≠ 'X'))
      ∧ ∀ m : Machine, m.IsGenuine → ∀ e ∈ m.table.entries,
        e.parent < UInt32.size →
        (⟨e.pid, e.parent⟩ ∈ m.links ↔ Stat.IsText e.name)
          ∧ (m.isAlive e.pid = true
              ↔ Stat.IsText e.name ∧ e.isRunning = true) := by
  constructor
  · obtain ⟨htext, hno⟩ :=
      Stat.read_line_of_isAlpha pid name hstate hparent hmore
    by_cases hname : Stat.IsText name
    · simp only [htext hname, Stat.tellsAlive_of_read (htext hname), hname,
        true_and, iff_self, and_self]
    · simp [hno hname, Stat.tellsAlive_of_unread (hno hname), hname]
  -- with its parent in range, an entry is legible exactly if its name is text
  · intro m hm e he hparent
    have hlegible : Stat.Legible e ↔ Stat.IsText e.name :=
      and_iff_left (Nat.le_sub_one_of_lt hparent)
    constructor
    · rw [Machine.mem_links_iff, ← hlegible]
      constructor
      · intro h
        -- two entries with one id are one entry, since the table is in order
        obtain ⟨e', he', hpid, -, hlegible'⟩ := h
        rwa [hm.ordered.eq_of_pid he he' hpid.symm]
      · exact fun h => ⟨e, he, rfl, rfl, h⟩
    · have hfind : m.table.find? e.pid = some e :=
        hm.ordered.find?_eq_some_iff.2 ⟨he, rfl⟩
      unfold Machine.isAlive
      rw [hfind, Option.any_some, ← hlegible]
      by_cases hreads : Stat.Legible e
      · have hread := Stat.read_ofEntry_iff.2 ⟨hreads, rfl⟩
        rw [Stat.tellsAlive_of_read hread]
        unfold Stat.letter
        cases e.isRunning <;> simp [hreads, Stat.runningLetter, Stat.endedLetter]
      · have hread : Stat.read (Stat.ofEntry e) = none := by
          refine Option.eq_none_iff_forall_ne_some.2 fun r hr => ?_
          exact hreads (Stat.read_ofEntry_iff.1 hr).1
        simp [Stat.tellsAlive_of_unread hread, hreads]

/-- A name that looks like the end of the name of a process that has
ended. -/
theorem tells_of_texts_imitation :
    Stat.read (Stat.line 7 (Text.Utf8.encode "a) Z 1 (b") 'R' 42 " -1 0\n")
      = some ('R', 42) := by
  have hmore : Stat.IsFurther " -1 0\n" :=
    ⟨[-1, 0], .inr (by decide)⟩
  obtain ⟨⟨hread, -⟩, -⟩ :=
    tells_of_texts 7 (Text.Utf8.encode "a) Z 1 (b")
      (show 'R'.isAlpha = true by decide)
      (show 42 < UInt32.size by decide) hmore
  exact hread.2 ⟨_, rfl⟩

/-- What a process keeps of a name of eight letters of two bytes each: the
last letter is cut in half. -/
def cutName : List UInt8 :=
  (Text.Utf8.encode "éééééééé").take 15

/-- A process that runs under such a name is not told of at all. -/
theorem cutName_untold :
    (∀ b ∈ cutName, b ≠ 0)
      ∧ Stat.read (Stat.line 7 cutName 'S' 42 " 7 7 0 -1\n") = none
      ∧ Stat.tellsAlive (Stat.line 7 cutName 'S' 42 " 7 7 0 -1\n")
        = false := by
  have hall : cutName.all (· ≠ 0) = true := by decide
  refine ⟨fun b hb => ?_, by decide, by decide⟩
  simpa using List.all_eq_true.1 hall b hb

end PairingHarness.Host
