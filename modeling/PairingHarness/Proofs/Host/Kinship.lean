/-
Kinship by forks and kinship in the table.

A process descends from another by forks, whatever became of those between
them. The table knows less: it gives each process the parent that forked
it only while that runs, and the first process from then on (`Kin`). So
the walk over the table finds of the descendants by forks just those that
are attached: every one before them still runs, and the line of each on
the way can be read (`mem_descendants_iff_attached`).

The reason for all of it is the handing on of orphans: the moment a
process ends, its children belong to the first process of the host and
the line of parents to the harness's child is cut there. A stop that
goes by the table misses them, and the statements about teardown say of
whom that is true in terms of forks, which do not forget.
-/
import PairingHarness.Proofs.Host.Descendants
import PairingHarness.Proofs.Host.History
import PairingHarness.Proofs.Host.Stat

namespace PairingHarness.Host

variable {t : Table} {forks : List Link} {e : Entry}
  {pid parent p q : Pid} {name : List UInt8} {ending : Ending}

-- ======================================================= the statement

/-- What the table knows of who forked whom. -/
structure Table.Kin (t : Table) (forks : List Link) : Prop where
  /-- Who is forked gets a number after that of the one who forks. -/
  forked : ∀ l ∈ forks, harnessPid < l.parent ∧ l.parent < l.pid
    ∧ l.pid < t.next
  /-- A parent is the one that forked, and it runs. -/
  parents : ∀ e ∈ t.entries, harnessPid < e.parent →
    t.isRunning e.parent = true ∧ ⟨e.pid, e.parent⟩ ∈ forks
  /-- The one that forked is the parent while it runs. -/
  kept : ∀ e ∈ t.entries, ∀ p, ⟨e.pid, p⟩ ∈ forks →
    t.isRunning p = true → e.parent = p

/-- The host tells of this process. -/
def Machine.TellsOf (m : Machine) (q : Pid) : Prop :=
  ∃ e ∈ m.table.entries, e.pid = q ∧ Stat.Legible e

/-- A process descends from another by forks, those before it all run and
the host tells of each on the way and of itself. -/
def Machine.Attached (m : Machine) : Pid → Pid → Prop :=
  Relation.TransGen fun p q => ⟨q, p⟩ ∈ m.annals.forks
    ∧ m.table.isRunning p = true ∧ m.TellsOf q

-- ============================================================ each change

namespace Table

/-- On a host without processes nobody has kin. -/
theorem kin_empty : Kin empty [] where
  forked := fun _ h => absurd h List.not_mem_nil
  parents := fun _ h => absurd h List.not_mem_nil
  kept := fun _ h => absurd h List.not_mem_nil

/-- Who runs runs on when a process is started. -/
theorem Ordered.runs_after_start (h : t.Ordered) (parent : Pid)
    (name : List UInt8) (hp : t.isRunning p = true) :
    (t.start parent name).isRunning p = true :=
  (h.isRunning_start parent name).2 (.inl hp)

/-- The harness starts a process. -/
theorem Kin.launch (h : t.Kin forks) (hordered : t.Ordered)
    (name : List UInt8) : (t.start harnessPid name).Kin forks where
  forked := fun l hl => by
    obtain ⟨hreal, hlater, hbelow⟩ := h.forked l hl
    exact ⟨hreal, hlater, Nat.lt_succ_of_lt hbelow⟩
  parents := fun e he hreal => by
    rcases List.mem_append.1 he with he | he
    · obtain ⟨hruns, hlink⟩ := h.parents e he hreal
      exact ⟨hordered.runs_after_start _ _ hruns, hlink⟩
    · obtain rfl := List.mem_singleton.1 he
      exact absurd hreal (Nat.lt_irrefl _)
  kept := fun e he p hlink hruns => by
    rcases List.mem_append.1 he with he | he
    · obtain ⟨-, hlater, -⟩ := h.forked _ hlink
      rcases (hordered.isRunning_start _ _).1 hruns with hruns | rfl
      · exact h.kept e he p hlink hruns
      · exact absurd (hordered.below e he) (Nat.lt_asymm hlater)
    · obtain rfl := List.mem_singleton.1 he
      exact absurd (h.forked _ hlink).2.2 (Nat.lt_irrefl _)

/-- A process starts another. -/
theorem Kin.fork (h : t.Kin forks) (hordered : t.Ordered)
    (hparent : t.isRunning parent = true) (name : List UInt8) :
    (t.start parent name).Kin (⟨t.next, parent⟩ :: forks) where
  forked := fun l hl => by
    rcases List.mem_cons.1 hl with rfl | hl
    · exact ⟨hordered.real_of_isRunning hparent,
        hordered.lt_of_isRunning hparent, Nat.lt_succ_self _⟩
    · obtain ⟨hreal, hlater, hbelow⟩ := h.forked l hl
      exact ⟨hreal, hlater, Nat.lt_succ_of_lt hbelow⟩
  parents := fun e he hreal => by
    rcases List.mem_append.1 he with he | he
    · obtain ⟨hruns, hlink⟩ := h.parents e he hreal
      exact ⟨hordered.runs_after_start _ _ hruns,
        List.mem_cons_of_mem _ hlink⟩
    · obtain rfl := List.mem_singleton.1 he
      exact ⟨hordered.runs_after_start _ _ hparent, List.mem_cons_self⟩
  kept := fun e he p hlink hruns => by
    rcases List.mem_append.1 he with he | he
    -- an older entry has no link to the new number, and the new process is no
    -- one's parent yet
    · rcases List.mem_cons.1 hlink with hnew | hold
      · exact absurd (Link.mk.inj hnew).1 (Nat.ne_of_lt (hordered.below e he))
      · obtain ⟨-, hlater, -⟩ := h.forked _ hold
        rcases (hordered.isRunning_start _ _).1 hruns with hruns | rfl
        · exact h.kept e he p hold hruns
        · exact absurd (hordered.below e he) (Nat.lt_asymm hlater)
    · obtain rfl := List.mem_singleton.1 he
      rcases List.mem_cons.1 hlink with hnew | hold
      · exact (Link.mk.inj hnew).2.symm
      · exact absurd (h.forked _ hold).2.2 (Nat.lt_irrefl _)

/-- Taking an ended process out changes no parent of another. -/
theorem Kin.forget (h : t.Kin forks) (hordered : t.Ordered)
    (parent pid : Pid) : (t.forget parent pid).Kin forks where
  forked := h.forked
  parents := fun e he hreal => by
    obtain ⟨hruns, hlink⟩ := h.parents e (List.mem_of_mem_filter he) hreal
    exact ⟨(hordered.isRunning_forget parent pid).2 hruns, hlink⟩
  kept := fun e he p hlink hruns =>
    h.kept e (List.mem_of_mem_filter he) p hlink
      ((hordered.isRunning_forget parent pid).1 hruns)

/-- The children of a process that ends are handed on, and no others. -/
theorem Kin.finish (h : t.Kin forks) (hordered : t.Ordered) (pid : Pid)
    (ending : Ending) : (t.finish pid ending).Kin forks := by
  have hiff : ∀ {p}, (t.finish pid ending).isRunning p = true
      ↔ t.isRunning p = true ∧ p ≠ pid := hordered.isRunning_finish pid ending
  have hnext := next_finish t pid ending
  revert hiff hnext
  unfold Table.finish
  split
  · intro hiff hnext
    refine {
      forked := fun l hl => hnext ▸ h.forked l hl
      parents := fun e' he' hreal => ?_
      kept := fun e' he' p hlink hruns => ?_ }
    · obtain ⟨e, he, hafter⟩ := mem_finish he'
      obtain ⟨hpid, -, -, hparent⟩ := afterFinish_eq_some hafter
      rw [hparent] at hreal ⊢
      split at hreal
      · exact absurd hreal (by decide)
      · rename_i hsame
        rw [if_neg hsame]
        obtain ⟨hruns, hlink⟩ := h.parents e he hreal
        refine ⟨hiff.2 ⟨hruns, fun heq => hsame ⟨fun hself => ?_, heq⟩⟩,
          hpid ▸ hlink⟩
        -- nobody is its own parent
        have hlater := (h.forked _ hlink).2.1
        rw [heq, ← hself] at hlater
        exact Nat.lt_irrefl _ hlater
    · obtain ⟨e, he, hafter⟩ := mem_finish he'
      obtain ⟨hpid, -, -, hparent⟩ := afterFinish_eq_some hafter
      obtain ⟨hruns, hne⟩ := hiff.1 hruns
      rw [hpid] at hlink
      have hold := h.kept e he p hlink hruns
      rw [hparent, if_neg fun hgone => hne (hold.symm.trans hgone.2), hold]
  · intro _ _
    exact h

/-- A name has nothing to do with kinship. -/
theorem Kin.become (h : t.Kin forks) (hordered : t.Ordered) (pid : Pid)
    (name : List UInt8) : (t.apply (.become pid name)).Kin forks := by
  have hiff : ∀ {p}, (t.apply (.become pid name)).isRunning p = true
      ↔ t.isRunning p = true := hordered.isRunning_become pid name
  exact {
    forked := h.forked
    parents := fun e' he' hreal => by
      obtain ⟨e, he, called, rfl⟩ := mem_of_mem_become he'
      obtain ⟨hruns, hlink⟩ := h.parents e he hreal
      exact ⟨hiff.2 hruns, hlink⟩
    kept := fun e' he' p hlink hruns => by
      obtain ⟨e, he, called, rfl⟩ := mem_of_mem_become he'
      exact h.kept e he p hlink (hiff.1 hruns) }

/-- Every change keeps the table in line with the forks, with the one that
it adds. -/
theorem Kin.apply (h : t.Kin forks) (hordered : t.Ordered)
    (change : Change) :
    (t.apply change).Kin ((t.born? change).toList ++ forks) := by
  cases change with
  | fork parent name =>
      show (if _ then _ else _ : Table).Kin _
      simp only [born?]
      split
      · rename_i hparent
        exact h.fork hordered hparent name
      · exact h
  | become pid name => exact h.become hordered pid name
  | finish pid ending => exact h.finish hordered pid ending
  | wait parent child =>
      show (if _ then _ else _ : Table).Kin _
      simp only [born?]
      split
      · exact h.forget hordered parent child
      · exact h

end Table

-- ============================================================ each deed

namespace Machine

variable {m m' : Machine} {deeds : List Deed} {deed : Deed}

/-- So does what a deed does of its own. -/
theorem kin_struck (h : m.table.Kin forks) (hordered : m.table.Ordered)
    (deed : Deed) : (m.struck deed).Kin forks := by
  cases deed with
  | launched pid l => exact h.launch hordered shellName
  | slept ms => exact h
  | killed pid =>
      simp only [struck]
      split
      · exact h
      · exact h.finish hordered pid _
  | reaped pid =>
      exact (h.finish hordered pid _).forget (hordered.finish pid _)
        harnessPid pid

/-- The table of every host is in line with the forks in its annals. -/
theorem IsGenuine.kin (h : m.IsGenuine) :
    m.table.Kin m.annals.forks := by
  rw [← h.table_annals]
  exact Goes.keeps (P := fun _ a => a.table.Kin a.forks) h
    (isGenuine_start m.programs) Table.kin_empty
    (fun hsound htable _ ha => kin_struck (htable ▸ ha)
      (htable ▸ hsound.now) _)
    fun change hsound ha => ha.apply hsound.now change

-- ========================================================= what is found

/-- The links that the host tells of are those of the table. -/
theorem mem_links_iff :
    ⟨q, p⟩ ∈ m.links
      ↔ ∃ e ∈ m.table.entries, e.pid = q ∧ e.parent = p
        ∧ Stat.Legible e := by
  unfold links
  rw [List.mem_filterMap]
  refine exists_congr fun e => and_congr_right fun _ => ?_
  rw [Option.map_eq_some_iff]
  constructor
  · rintro ⟨r, hr, heq⟩
    obtain ⟨hlegible, rfl⟩ := Stat.read_ofEntry_iff.1 hr
    cases heq
    exact ⟨rfl, rfl, hlegible⟩
  · rintro ⟨rfl, rfl, hlegible⟩
    exact ⟨_, Stat.read_ofEntry_iff.2 ⟨hlegible, rfl⟩, rfl⟩

/-- A link from a process that was launched or forked is told of where
that process forked the other, runs, and the host tells of the other. -/
theorem IsGenuine.mem_links_iff (h : m.IsGenuine) (hp : harnessPid < p) :
    ⟨q, p⟩ ∈ m.links ↔ ⟨q, p⟩ ∈ m.annals.forks
      ∧ m.table.isRunning p = true ∧ m.TellsOf q := by
  rw [Machine.mem_links_iff]
  constructor
  · rintro ⟨e, he, rfl, rfl, hlegible⟩
    obtain ⟨hruns, hlink⟩ := h.kin.parents e he hp
    exact ⟨hlink, hruns, e, he, rfl, hlegible⟩
  · rintro ⟨hlink, hruns, e, he, rfl, hlegible⟩
    exact ⟨e, he, rfl, h.kin.kept e he p hlink hruns, hlegible⟩

/-- Of the descendants of a process those are found that are attached to
it. -/
theorem IsGenuine.mem_descendants_iff_attached (h : m.IsGenuine)
    {root : Pid} (hroot : harnessPid < root) :
    q ∈ m.descendants root ↔ m.Attached root q := by
  unfold descendants
  rw [mem_descendants_iff]
  constructor
  · intro hlinked
    have hboth : m.Attached root q ∧ harnessPid < q := by
      induction hlinked with
      | single hlink =>
          have hfork := (h.mem_links_iff hroot).1 hlink
          have hkin := h.kin.forked _ hfork.1
          exact ⟨.single hfork, Nat.lt_trans hkin.1 hkin.2.1⟩
      | tail _ hlink ih =>
          have hfork := (h.mem_links_iff ih.2).1 hlink
          have hkin := h.kin.forked _ hfork.1
          exact ⟨ih.1.tail hfork, Nat.lt_trans hkin.1 hkin.2.1⟩
    exact hboth.1
  · intro hattached
    induction hattached with
    | single hfork => exact .single ((h.mem_links_iff hroot).2 hfork)
    | tail _ hfork ih =>
        have hreal := (h.kin.forked _ hfork.1).1
        exact ih.tail ((h.mem_links_iff hreal).2 hfork)

/-- Who descends by forks was numbered after the one it descends from. -/
theorem IsGenuine.range_of_linked (h : m.IsGenuine) {root : Pid}
    (hlinked : Linked m.annals.forks root q) :
    root < q ∧ q < m.table.next := by
  induction hlinked with
  | single hlink => exact (h.kin.forked _ hlink).2
  | tail _ hlink ih =>
      obtain ⟨-, hlater, hbelow⟩ := h.kin.forked _ hlink
      exact ⟨Nat.lt_trans ih.1 hlater, hbelow⟩

end Machine

end PairingHarness.Host
