/-
What changes make of a table of processes.

Numbers are given once and in order (`Ordered`), so a number stands for
one process at most and a number below the next one is never given again.
A process runs on unless it is ended, and one that has ended does not come
back: of the numbers that are given, a change can only take some from
those that run, and it takes one only by ending it
(`Ordered.isRunning_apply`).

There is one pair of lemmas for each of the four operations, that it
keeps the order and what it makes of those that run, and the two about a
change (`Ordered.apply`, `Ordered.isRunning_apply`) put the pairs
together. Beyond this module nothing looks into the list of entries.
-/
import PairingHarness.Host.Descendants
import Mathlib.Data.List.Nodup

namespace PairingHarness.Host.Table

variable {t : Table} {pid parent q : Pid} {name : List UInt8}
  {ending : Ending} {change : Change} {e : Entry}

-- ============================================================= numbering

/-- Processes are numbered from behind the harness on, each with a number
of its own and all below the next one. -/
structure Ordered (t : Table) : Prop where
  unique : (t.entries.map Entry.pid).Nodup
  real : ∀ e ∈ t.entries, harnessPid < e.pid
  below : ∀ e ∈ t.entries, e.pid < t.next
  room : harnessPid < t.next

theorem ordered_empty : empty.Ordered where
  unique := List.nodup_nil
  real := fun _ h => absurd h List.not_mem_nil
  below := fun _ h => absurd h List.not_mem_nil
  room := Nat.lt_succ_self _

/-- A number stands for one process at most. -/
theorem Ordered.eq_of_pid {e' : Entry} (h : t.Ordered) (he : e ∈ t.entries)
    (he' : e' ∈ t.entries) (hpid : e.pid = e'.pid) : e = e' :=
  List.inj_on_of_nodup_map h.unique he he' hpid

/-- A look-up by number finds the entry that has it, since there is no
other. -/
theorem Ordered.find?_eq_some_iff (h : t.Ordered) :
    t.find? q = some e ↔ e ∈ t.entries ∧ e.pid = q := by
  unfold find?
  constructor
  · intro hfind
    exact ⟨List.mem_of_find?_eq_some hfind,
      by simpa using List.find?_some hfind⟩
  · rintro ⟨hmem, rfl⟩
    cases hfind : t.entries.find? fun e' => e'.pid == e.pid with
    | none =>
        have hnone := List.find?_eq_none.1 hfind e hmem
        simp at hnone
    | some e' =>
        have hpid := List.find?_some hfind
        rw [h.eq_of_pid (List.mem_of_find?_eq_some hfind) hmem
          (by simpa using hpid)]

/-- A process runs where it has an entry without an ending. -/
theorem Ordered.isRunning_iff (h : t.Ordered) :
    t.isRunning q = true
      ↔ ∃ e ∈ t.entries, e.pid = q ∧ e.isRunning = true := by
  unfold isRunning
  rw [Option.any_eq_true]
  constructor
  · rintro ⟨e, hfind, hrunning⟩
    obtain ⟨hmem, hpid⟩ := h.find?_eq_some_iff.1 hfind
    exact ⟨e, hmem, hpid, hrunning⟩
  · rintro ⟨e, hmem, hpid, hrunning⟩
    exact ⟨e, h.find?_eq_some_iff.2 ⟨hmem, hpid⟩, hrunning⟩

/-- A process that runs has a number that was given. -/
theorem Ordered.lt_of_isRunning (h : t.Ordered)
    (hrunning : t.isRunning q = true) : q < t.next := by
  obtain ⟨e, hmem, rfl, -⟩ := h.isRunning_iff.1 hrunning
  exact h.below e hmem

/-- And it is neither the first process nor the harness. -/
theorem Ordered.real_of_isRunning (h : t.Ordered)
    (hrunning : t.isRunning q = true) : harnessPid < q := by
  obtain ⟨e, hmem, rfl, -⟩ := h.isRunning_iff.1 hrunning
  exact h.real e hmem

-- ================================================================= start

/-- A new process gets the next number, which no other has. -/
theorem Ordered.start (h : t.Ordered) (parent : Pid) (name : List UInt8) :
    (t.start parent name).Ordered where
  unique := by
    unfold Table.start
    rw [List.map_append, List.nodup_append]
    refine ⟨h.unique, by simp, fun p hp p' hp' => ?_⟩
    obtain ⟨e, he, rfl⟩ := List.mem_map.1 hp
    obtain rfl : p' = t.next := by simpa using hp'
    exact Nat.ne_of_lt (h.below e he)
  real := fun e he => by
    rcases List.mem_append.1 he with he | he
    · exact h.real e he
    · obtain rfl := List.mem_singleton.1 he
      exact h.room
  below := fun e he => by
    rcases List.mem_append.1 he with he | he
    · exact Nat.lt_succ_of_lt (h.below e he)
    · obtain rfl := List.mem_singleton.1 he
      exact Nat.lt_succ_self _
  room := Nat.lt_succ_of_lt h.room

/-- A start adds the new process to those that run and touches no other. -/
theorem Ordered.isRunning_start (h : t.Ordered) (parent : Pid)
    (name : List UInt8) :
    (t.start parent name).isRunning q = true
      ↔ t.isRunning q = true ∨ q = t.next := by
  rw [(h.start parent name).isRunning_iff, h.isRunning_iff]
  unfold Table.start
  simp only [List.mem_append, List.mem_singleton, or_and_right, exists_or]
  refine or_congr_right ⟨?_, ?_⟩
  · rintro ⟨e, rfl, rfl, -⟩
    rfl
  · rintro rfl
    exact ⟨_, rfl, rfl, rfl⟩

-- ================================================================ forget

/-- Taking an entry out leaves the numbers in order. -/
theorem Ordered.forget (h : t.Ordered) (parent pid : Pid) :
    (t.forget parent pid).Ordered where
  unique := h.unique.sublist (List.filter_sublist.map _)
  real := fun e he => h.real e (List.mem_of_mem_filter he)
  below := fun e he => h.below e (List.mem_of_mem_filter he)
  room := h.room

/-- Only processes that have ended are taken out. -/
theorem Ordered.isRunning_forget (h : t.Ordered) (parent pid : Pid) :
    (t.forget parent pid).isRunning q = true ↔ t.isRunning q = true := by
  rw [(h.forget parent pid).isRunning_iff, h.isRunning_iff]
  unfold Table.forget
  constructor
  · rintro ⟨e, he, hpid, hrunning⟩
    exact ⟨e, List.mem_of_mem_filter he, hpid, hrunning⟩
  · rintro ⟨e, he, hpid, hrunning⟩
    refine ⟨e, List.mem_filter.2 ⟨he, ?_⟩, hpid, hrunning⟩
    simp [hrunning]

-- ================================================================ finish

/-- Where an entry comes from once a process has ended: it is the entry of
the same process, its ending that of the one that ended, and its parent
the first process where the one that ended was its parent. -/
theorem afterFinish_eq_some {e' : Entry}
    (h : afterFinish pid ending e = some e') :
    e'.pid = e.pid ∧ e'.name = e.name
      ∧ (e'.isRunning = true ↔ e.isRunning = true ∧ e.pid ≠ pid)
      ∧ e'.parent
        = if e.pid ≠ pid ∧ e.parent = pid then initPid else e.parent := by
  unfold afterFinish at h
  by_cases hpid : e.pid = pid
  · rw [if_pos hpid] at h
    split at h
    · cases h
    · cases h
      simp [hpid, Entry.isRunning]
  · rw [if_neg hpid] at h
    by_cases hparent : e.parent = pid
    · rw [if_pos hparent] at h
      split at h
      · cases h
        simp [hpid, hparent, Entry.isRunning]
      · cases h
    · rw [if_neg hparent] at h
      cases h
      simp [hpid, hparent]

/-- What is left after an ending was there before it, changed at most in its
parent or its ending. -/
theorem mem_finish {e' : Entry}
    (h : e' ∈ t.entries.filterMap (afterFinish pid ending)) :
    ∃ e ∈ t.entries, afterFinish pid ending e = some e' :=
  List.mem_filterMap.1 h

/-- An ending brings no number in and does not move any. -/
theorem map_pid_finish_sublist (entries : List Entry) (pid : Pid)
    (ending : Ending) :
    ((entries.filterMap (afterFinish pid ending)).map Entry.pid).Sublist
      (entries.map Entry.pid) := by
  induction entries with
  | nil => exact .slnil
  | cons e rest ih =>
      cases hafter : afterFinish pid ending e with
      | none =>
          rw [List.filterMap_cons_none hafter]
          exact ih.cons e.pid
      | some e' =>
          rw [List.filterMap_cons_some hafter, List.map_cons, List.map_cons,
            (afterFinish_eq_some hafter).1]
          exact ih.cons_cons e.pid

/-- So it leaves the numbers in order. -/
theorem Ordered.finish (h : t.Ordered) (pid : Pid) (ending : Ending) :
    (t.finish pid ending).Ordered := by
  unfold Table.finish
  split
  · exact {
      unique := h.unique.sublist (map_pid_finish_sublist _ _ _)
      real := fun e' he' => by
        obtain ⟨e, he, hafter⟩ := mem_finish he'
        rw [(afterFinish_eq_some hafter).1]
        exact h.real e he
      below := fun e' he' => by
        obtain ⟨e, he, hafter⟩ := mem_finish he'
        rw [(afterFinish_eq_some hafter).1]
        exact h.below e he
      room := h.room }
  · exact h

/-- The process that is ended does not run any more, and all others do as
before. -/
theorem Ordered.isRunning_finish (h : t.Ordered) (pid : Pid)
    (ending : Ending) :
    (t.finish pid ending).isRunning q = true
      ↔ t.isRunning q = true ∧ q ≠ pid := by
  have hordered := h.finish pid ending
  revert hordered
  unfold Table.finish
  split
  · intro hordered
    rw [hordered.isRunning_iff, h.isRunning_iff]
    constructor
    · rintro ⟨e', he', rfl, hrunning⟩
      obtain ⟨e, he, hafter⟩ := mem_finish he'
      obtain ⟨hpid, -, hrun, -⟩ := afterFinish_eq_some hafter
      obtain ⟨hrunning, hne⟩ := hrun.1 hrunning
      rw [hpid]
      exact ⟨⟨e, he, rfl, hrunning⟩, hne⟩
    · rintro ⟨⟨e, he, rfl, hrunning⟩, hne⟩
      -- its children are handed to init and run on there
      by_cases hparent : e.parent = pid
      · refine ⟨{ e with parent := initPid }, ?_, rfl, hrunning⟩
        exact List.mem_filterMap.2
          ⟨e, he, by simp [afterFinish, hne, hparent, hrunning]⟩
      · exact ⟨e, List.mem_filterMap.2
          ⟨e, he, by simp [afterFinish, hne, hparent]⟩, rfl, hrunning⟩
  · rename_i hnot
    intro _
    refine ⟨fun hrunning => ⟨hrunning, ?_⟩, fun hrunning => hrunning.1⟩
    rintro rfl
    exact hnot hrunning

-- ================================================================ become

/-- A change of names gives an entry a name at most. -/
theorem entry_become (e : Entry) (pid : Pid) (name : List UInt8) :
    ∃ called, (if e.pid = pid && e.isRunning then { e with name := name }
      else e) = { e with name := called } := by
  split
  · exact ⟨name, rfl⟩
  · exact ⟨e.name, rfl⟩

/-- What is there after a change of name was there before under some name.
-/
theorem mem_of_mem_become {e' : Entry}
    (h : e' ∈ (t.apply (.become pid name)).entries) :
    ∃ e ∈ t.entries, ∃ called, e' = { e with name := called } := by
  obtain ⟨e, he, rfl⟩ := List.mem_map.1 h
  exact ⟨e, he, entry_become e pid name⟩

/-- And what was there before is there under some name. -/
theorem mem_become_of_mem (h : e ∈ t.entries) :
    ∃ called, { e with name := called }
      ∈ (t.apply (.become pid name)).entries := by
  obtain ⟨called, heq⟩ := entry_become e pid name
  exact ⟨called, List.mem_map.2 ⟨e, h, heq⟩⟩

/-- A change of name leaves the numbers in order. -/
theorem Ordered.become (h : t.Ordered) (pid : Pid) (name : List UInt8) :
    (t.apply (.become pid name)).Ordered where
  unique := by
    show ((t.entries.map _).map Entry.pid).Nodup
    rw [List.map_map]
    refine (List.map_congr_left fun e _ => ?_) ▸ h.unique
    obtain ⟨called, heq⟩ := entry_become e pid name
    exact (congrArg Entry.pid heq).symm
  real := fun e' he' => by
    obtain ⟨e, he, called, rfl⟩ := mem_of_mem_become he'
    exact h.real e he
  below := fun e' he' => by
    obtain ⟨e, he, called, rfl⟩ := mem_of_mem_become he'
    exact h.below e he
  room := h.room

/-- And it neither ends nor starts a process. -/
theorem Ordered.isRunning_become (h : t.Ordered) (pid : Pid)
    (name : List UInt8) :
    (t.apply (.become pid name)).isRunning q = true
      ↔ t.isRunning q = true := by
  rw [(h.become pid name).isRunning_iff, h.isRunning_iff]
  constructor
  · rintro ⟨e', he', hpid, hrunning⟩
    obtain ⟨e, he, called, rfl⟩ := mem_of_mem_become he'
    exact ⟨e, he, hpid, hrunning⟩
  · rintro ⟨e, he, hpid, hrunning⟩
    obtain ⟨called, he'⟩ := mem_become_of_mem he
    exact ⟨_, he', hpid, hrunning⟩

-- =============================================================== changes

/-- Every change leaves the numbers in order. -/
theorem Ordered.apply (h : t.Ordered) (change : Change) :
    (t.apply change).Ordered := by
  cases change with
  | fork parent name =>
      show (if _ then _ else _ : Table).Ordered
      split
      · exact h.start parent name
      · exact h
  | become pid name => exact h.become pid name
  | finish pid ending => exact h.finish pid ending
  | wait parent child =>
      show (if _ then _ else _ : Table).Ordered
      split
      · exact h.forget parent child
      · exact h

/-- An ending gives no number. -/
theorem next_finish (t : Table) (pid : Pid) (ending : Ending) :
    (t.finish pid ending).next = t.next := by
  unfold finish
  split <;> rfl

/-- No number is given back. -/
theorem next_le_apply (t : Table) (change : Change) :
    t.next ≤ (t.apply change).next := by
  cases change with
  | fork parent name =>
      show t.next ≤ (if _ then _ else _ : Table).next
      split
      · exact Nat.le_succ _
      · exact Nat.le_refl _
  | become pid name => exact Nat.le_refl _
  | finish pid ending => exact Nat.le_of_eq (next_finish t pid ending).symm
  | wait parent child =>
      show t.next ≤ (if _ then _ else _ : Table).next
      split <;> exact Nat.le_refl _

/-- The process that a change starts, with its parent, if it starts one. -/
def born? (t : Table) : Change → Option Link
  | .fork parent _ =>
      if t.isRunning parent then some ⟨t.next, parent⟩ else none
  | _ => none

/-- The process that a change ends, if it ends one. -/
def ended? (t : Table) : Change → Option Pid
  | .finish pid _ => if t.isRunning pid then some pid else none
  | _ => none

/-- Who is born gets the next number and a parent that runs, and the change
was just this start. -/
theorem born?_eq_some {link : Link} (h : t.born? change = some link) :
    link.pid = t.next ∧ t.isRunning link.parent = true
      ∧ (t.apply change).next = t.next + 1
      ∧ ∃ name, t.apply change = t.start link.parent name := by
  cases change with
  | fork parent name =>
      simp only [born?] at h
      split at h
      · rename_i hrunning
        obtain rfl := Option.some.inj h
        have happly : t.apply (.fork parent name) = t.start parent name :=
          if_pos hrunning
        rw [happly]
        exact ⟨rfl, hrunning, rfl, name, rfl⟩
      · cases h
  | _ => cases h

/-- Only who runs is ended. -/
theorem isRunning_of_ended? (h : t.ended? change = some q) :
    t.isRunning q = true := by
  cases change with
  | finish pid ending =>
      simp only [ended?] at h
      split at h
      · rename_i hrunning
        obtain rfl := Option.some.inj h
        exact hrunning
      · cases h
  | _ => cases h

/-- After a change those run that ran before and were not ended by it, and
the one that it started. -/
theorem Ordered.isRunning_apply (h : t.Ordered) (change : Change) :
    (t.apply change).isRunning q = true
      ↔ (t.isRunning q = true ∧ t.ended? change ≠ some q)
        ∨ ∃ parent, t.born? change = some ⟨q, parent⟩ := by
  cases change with
  | fork parent name =>
      show (if _ then _ else _ : Table).isRunning q = true ↔ _
      simp only [born?, ended?]
      split
      · rw [h.isRunning_start]
        simp [eq_comm (a := q)]
      · simp
  | become pid name =>
      rw [h.isRunning_become]
      simp [ended?, born?]
  | finish pid ending =>
      show (t.finish pid ending).isRunning q = true ↔ _
      rw [h.isRunning_finish]
      simp only [ended?, born?]
      -- what has ended already ends no second time
      by_cases hrunning : t.isRunning pid = true
      · simp [hrunning, eq_comm (a := q)]
      · simp only [hrunning]
        constructor
        · rintro ⟨hq, -⟩
          exact .inl ⟨hq, by simp⟩
        · rintro (⟨hq, -⟩ | ⟨_, hborn⟩)
          · exact ⟨hq, fun heq => hrunning (heq ▸ hq)⟩
          · cases hborn
  | wait parent child =>
      show (if _ then _ else _ : Table).isRunning q = true ↔ _
      -- waiting for a child takes an ended entry out at most: nobody is born
      -- or ends by it
      have hother : ∀ t' : Table, (t'.isRunning q = true
          ↔ t.isRunning q = true) → (t'.isRunning q = true
          ↔ (t.isRunning q = true ∧ t.ended? (.wait parent child) ≠ some q)
            ∨ ∃ p, t.born? (.wait parent child) = some ⟨q, p⟩) := by
        intro t' hsame
        simp [hsame, ended?, born?]
      split
      · exact hother _ (h.isRunning_forget parent child)
      · exact hother _ Iff.rfl

end PairingHarness.Host.Table
