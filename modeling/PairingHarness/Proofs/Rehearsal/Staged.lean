/-
The played host is a host.

What the programs tell the host is only what changed since the last deed of
the harness, and the host makes its own table of it. Here it is shown that
nothing is lost on that way: the table that the host has is the one on the
scene, the processes that run are those that have an actor, one each, and
the scene's clock shows the milliseconds that the harness slept
(`mirrors_after`).

Two things are true of every move and therefore of all playing. The notes
lead from the table at the last deed to the one that is there (`Accounts`),
and the actors are the processes that run (`Staged`); each deed of the
harness then restores both by its own effect (`Mirrors.react`).

Nothing that is killed lingers on the played host, so every supervisor on it
is served in time, whatever it waits (`prompt_programs`): what is proved of
hosts on which killed processes die in time is true of the commands that are
played.
-/
import PairingHarness.Proofs.Rehearsal.Moves
import PairingHarness.Proofs.Supervisor.Ownership

namespace PairingHarness.Rehearsal.Shell

open Host

namespace Scene

variable {s s' : Scene} {t : Table} {q : Pid}

-- ================================================================= notes

/-- The notes of a scene lead from a table to the one that is there. -/
def Accounts (t : Table) (s : Scene) : Prop :=
  s.table = t.applyAll s.changes.reverse

theorem Accounts.change (h : Accounts t s) (c : Table.Change) :
    Accounts t (s.change c) := by
  show s.table.apply c = t.applyAll (c :: s.changes).reverse
  rw [List.reverse_cons, Table.applyAll, List.foldl_append]
  exact congrArg (Table.apply · c) h

theorem Accounts.move (h : Accounts t s) (hmove : Move s s') :
    Accounts t s' := by
  cases hmove with
  | aside hquiet =>
      unfold Accounts
      rw [hquiet.table, hquiet.changes]
      exact h
  | named pid name => exact h.change (.become pid name)
  | noticed parent child => exact h.change (.wait parent child)
  | ended pid ending => exact h.change (.finish pid ending)
  | @forked a _ streams tasks =>
      exact h.change (.fork a.pid Machine.shellName)

theorem Accounts.plays (h : Accounts t s) (hplays : Plays s s') :
    Accounts t s' := by
  induction hplays with
  | refl => exact h
  | tail _ hmove ih => exact ih.move hmove

-- ================================================================= clock

/-- No time passes while anything is played. -/
theorem clock_of_plays (hplays : Plays s s') : s'.clock = s.clock := by
  induction hplays with
  | refl => rfl
  | tail _ hmove ih =>
      refine Eq.trans ?_ ih
      cases hmove with
      | aside hquiet => exact hquiet.clock
      | _ => rfl

-- ================================================================= actors

/-- The processes that run are those on the scene, each with an actor of its
own. -/
structure Staged (s : Scene) : Prop where
  ordered : s.table.Ordered
  unique : s.cast.Nodup
  runs : ∀ q, s.table.isRunning q = true ↔ q ∈ s.cast

theorem staged_start : start.Staged where
  ordered := Table.ordered_empty
  unique := List.nodup_nil
  runs := fun _ => ⟨fun h => absurd h Bool.false_ne_true,
    fun h => absurd h List.not_mem_nil⟩

/-- What is on the scene with another table on which the same run. -/
theorem Staged.of_same (h : s.Staged) (hordered : s'.table.Ordered)
    (hcast : s'.cast = s.cast)
    (hruns : ∀ q, s'.table.isRunning q = true ↔ s.table.isRunning q = true) :
    s'.Staged where
  ordered := hordered
  unique := hcast ▸ h.unique
  runs := fun q => by rw [hruns, h.runs, hcast]

/-- Whoever is new on the table comes on the scene. -/
theorem Staged.enter (h : s.Staged) (parent : Pid) (name : List UInt8)
    (htable : s'.table = s.table.start parent name)
    (hcast : s'.cast = s.cast ++ [s.table.next]) : s'.Staged where
  ordered := htable ▸ h.ordered.start parent name
  unique := by
    rw [hcast, List.nodup_append]
    refine ⟨h.unique, List.nodup_singleton _, fun p hp p' hp' => ?_⟩
    obtain rfl := List.mem_singleton.1 hp'
    exact Nat.ne_of_lt (h.ordered.lt_of_isRunning ((h.runs p).2 hp))
  runs := fun q => by
    rw [htable, h.ordered.isRunning_start, h.runs, hcast, List.mem_append,
      List.mem_singleton]

theorem mem_cast_remove (s : Scene) (pid : Pid) :
    q ∈ (s.remove pid).cast ↔ q ∈ s.cast ∧ q ≠ pid := by
  unfold remove cast
  rw [List.mem_map, List.mem_map]
  constructor
  · rintro ⟨a, ha, rfl⟩
    obtain ⟨hmem, hne⟩ := List.mem_filter.1 ha
    exact ⟨⟨a, hmem, rfl⟩, by simpa using hne⟩
  · rintro ⟨⟨a, ha, rfl⟩, hne⟩
    exact ⟨a, List.mem_filter.2 ⟨ha, by simpa using hne⟩, rfl⟩

/-- Whoever ends leaves the scene. -/
theorem Staged.leave (h : s.Staged) {pid : Pid} {t' : Table}
    (hordered : t'.Ordered)
    (hruns : ∀ q, t'.isRunning q = true
      ↔ s.table.isRunning q = true ∧ q ≠ pid)
    (changes : List Table.Change) :
    (Scene.remove { s with table := t', changes := changes } pid).Staged where
  ordered := hordered
  unique := h.unique.sublist (List.filter_sublist.map _)
  runs := fun q => by
    rw [mem_cast_remove]
    show t'.isRunning q = true ↔ q ∈ s.cast ∧ q ≠ pid
    rw [hruns, h.runs]

theorem Staged.move (h : s.Staged) (hmove : Move s s') : s'.Staged := by
  cases hmove with
  | aside hquiet =>
      exact h.of_same (hquiet.table ▸ h.ordered) hquiet.cast
        fun q => by rw [hquiet.table]
  | named pid name =>
      exact h.of_same (h.ordered.become pid name) rfl
        fun q => h.ordered.isRunning_become pid name
  | noticed parent child =>
      refine h.of_same (h.ordered.apply (.wait parent child)) rfl fun q => ?_
      show (if _ then _ else _ : Table).isRunning q = true ↔ _
      split
      · exact h.ordered.isRunning_forget parent child
      · exact Iff.rfl
  | ended pid ending =>
      exact h.leave (h.ordered.finish pid ending)
        (fun q => h.ordered.isRunning_finish pid ending) _
  | @forked a hcast streams tasks =>
      -- the parent has an actor, so it runs and is not refused its child
      have hforks : s.table.apply (.fork a.pid Machine.shellName)
          = s.table.start a.pid Machine.shellName :=
        if_pos ((h.runs a.pid).2 hcast)
      refine h.enter a.pid Machine.shellName hforks ?_
      show List.map Actor.pid (s.actors ++ [_]) = _
      rw [List.map_append]
      rfl

theorem Staged.plays (h : s.Staged) (hplays : Plays s s') : s'.Staged := by
  induction hplays with
  | refl => exact h
  | tail _ hmove ih => exact ih.move hmove

-- ================================================================== time

/-- The clock can be set, since nobody's doing depends on the host's
knowing it. -/
theorem Staged.at (h : s.Staged) (time : Nat) :
    Staged { s with clock := time } :=
  ⟨h.ordered, h.unique, h.runs⟩

/-- From one waking to the next the actors stay the processes that run, the
notes lead on, and in the end the clock shows the time that it was to
reach. -/
theorem advance_spec (till wakings : Nat) (hstaged : s.Staged)
    (haccounts : Accounts t s) :
    (s.advance till wakings).Staged
      ∧ Accounts t (s.advance till wakings)
      ∧ (s.advance till wakings).clock = till := by
  induction wakings generalizing s with
  | zero => exact ⟨hstaged.at till, haccounts, rfl⟩
  | succ wakings ih =>
      have hplays := plays_settle stepsAtOnce s
      have hstaged' := hstaged.plays hplays
      have haccounts' := haccounts.plays hplays
      unfold advance
      dsimp only
      split
      · split
        · exact ih (hstaged'.at _) haccounts'
        · exact ⟨hstaged'.at till, haccounts', rfl⟩
      · exact ⟨hstaged'.at till, haccounts', rfl⟩

-- ================================================================= deeds

/-- A scene shows what a host is told of it: the same table, the processes
that run as its actors, the time that the harness slept on its clock. -/
structure Mirrors (m : Machine) (s : Scene) : Prop where
  table : s.table = m.table
  staged : s.Staged
  clock : s.clock = m.slept

/-- Where a deed of its own leaves the right scene and no notes yet, the
scene is right when it has settled, and the notes are what the host needs to
follow. -/
theorem Staged.mirrors_settle {m' : Machine} (h : s.Staged)
    (hnotes : s.changes = []) (hclock : s.clock = m'.slept)
    (htold : m'.table
      = s.table.applyAll (s.settle stepsAtOnce).changes.reverse) :
    Mirrors m' (s.settle stepsAtOnce) := by
  have hplays := plays_settle stepsAtOnce s
  have haccounts : Accounts s.table s := by
    unfold Accounts
    rw [hnotes]
    rfl
  exact ⟨(haccounts.plays hplays).trans htold.symm, h.plays hplays,
    (clock_of_plays hplays).trans hclock⟩

variable {m : Machine} {deed : Deed}

/-- A deed of the harness does the same to the scene as to the host. -/
theorem Mirrors.react (h : Mirrors m s) (hprograms : m.programs = programs)
    (hfits : m.Fits deed)
    (htold : (m.perform deed).table
      = (m.struck deed).applyAll (s.react deed).changes.reverse) :
    Mirrors (m.perform deed) (s.react deed) := by
  -- only time lets the actors go on; the other deeds add one or take one away
  cases deed with
  | launched pid l =>
      rw [Machine.struck, ← h.table] at htold
      refine Staged.mirrors_settle (h.staged.enter harnessPid
        Machine.shellName rfl ?_) rfl (h.clock.trans (Nat.zero_add _).symm)
        htold
      show List.map Actor.pid (s.actors ++ [shellOf pid l]) = _
      obtain rfl : pid = s.table.next := h.table ▸ hfits
      rw [List.map_append]
      rfl
  | slept ms =>
      rw [Machine.struck, ← h.table] at htold
      obtain ⟨hstaged, haccounts, hclock⟩ := advance_spec (t := s.table)
        (s := { s with changes := [] }) (s.clock + ms) wakingsAtOnce
        ⟨h.staged.ordered, h.staged.unique, h.staged.runs⟩ rfl
      exact ⟨haccounts.trans htold.symm, hstaged, hclock.trans
        (by rw [h.clock, Nat.add_comm]; rfl)⟩
  | killed pid =>
      -- these programs end the moment they are killed
      have hprompt : m.programs.lingers m.deeds pid = false := by
        rw [hprograms]
        rfl
      rw [Machine.struck, hprompt, ← h.table] at htold
      exact Staged.mirrors_settle (h.staged.leave
        (h.staged.ordered.finish pid _)
        (fun q => h.staged.ordered.isRunning_finish pid _) _) rfl
        (h.clock.trans (Nat.zero_add _).symm) htold
  | reaped pid =>
      rw [Machine.struck, ← h.table] at htold
      refine ⟨htold.symm, h.staged.leave
        ((h.staged.ordered.finish pid _).forget harnessPid pid)
        (fun q => ?_) _, h.clock.trans (Nat.zero_add _).symm⟩
      rw [(h.staged.ordered.finish pid _).isRunning_forget,
        h.staged.ordered.isRunning_finish]

/-- However the harness acts on the played host, the scene and the host
never part. -/
theorem mirrors_after (hm : m.IsGenuine) (hprograms : m.programs = programs) :
    Mirrors m (after m.deeds) := by
  unfold Machine.IsGenuine at hm
  rw [hprograms] at hm
  generalize m.deeds = deeds at hm
  clear hprograms
  induction hm with
  | none => exact ⟨rfl, staged_start, rfl⟩
  | @more deeds m₁ deed hgoes hfits ih =>
      have hdeeds : m₁.deeds = deeds :=
        hgoes.deeds_eq.trans (List.append_nil deeds)
      refine ih.react hgoes.programs_eq hfits ?_
      show (m₁.struck deed).applyAll (m₁.programs.changes _) = _
      rw [hgoes.programs_eq, hdeeds]
      rfl

end Scene

-- =============================================================== the host

/-- On the played host a killed process is dead at once, and the host tells
of every child: whatever a supervisor waits, it waits long enough. -/
theorem prompt_programs (timeout : Nat) : programs.Prompt timeout where
  slept := fun {m} {_} {_} {pid} hm hprograms hlaunched hgoes _ =>
    have hlt := hm.lt_of_launched hlaunched
    have hkill := m.goes_kill pid
    hgoes.not_isRunning (hkill.isGenuine hm)
      (Nat.lt_of_lt_of_le hlt (hkill.follows hm).next)
      (hm.not_isRunning_kill hlt (hprograms ▸ rfl))
  hidden := fun _ _ _ _ htold => absurd rfl htold

end PairingHarness.Rehearsal.Shell
