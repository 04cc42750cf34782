/-
What is left of a service.

To a service belong the process that was launched for it and all that
descend from it by forks (`Belongs`). A stop kills those that the table
still shows below that process, so of the others it spares every one
(`isRunning_stop_iff`): one whose forebears have not all run on, for the
table shows it below the first process of the host by then, and one that
the host cannot tell of, or whose forebears it cannot. A start that fails
kills nothing below the process that it launched, so all that was forked
meanwhile runs on (`isRunning_failed_start_iff`).

The signal is assumed to do its work on whatever it is sent to
(`Slays`), and nobody to fork while the stop goes on.

Forks and the table tell different stories about who belongs to whom,
and a stop can only go by the second. Both of the exact statements say
which part of the first it misses, so a service whose processes all stay
attached is cleared away and one that lets go of a child is not, with
the child named in each case.
-/
import PairingHarness.Proofs.Supervisor.Operation
import PairingHarness.Proofs.Host.Kinship

namespace PairingHarness

open Host

-- ======================================================= the statement

namespace Host.Machine

/-- A process belongs to a service that was launched as another: it is
that one or descends from it by forks. -/
def Belongs (m : Machine) (pid q : Pid) : Prop :=
  q = pid ∨ Linked m.annals.forks pid q

/-- What the harness killed between two states of a host is dead. -/
def Slays (m m' : Machine) : Prop :=
  ∀ deeds, m'.deeds = deeds ++ m.deeds → ∀ q, .killed q ∈ deeds →
    m'.table.isRunning q ≠ true

/-- A process that the harness launched between two states of a host. -/
def Spawned (m m' : Machine) (pid : Pid) : Prop :=
  ∃ deeds l, m'.deeds = deeds ++ m.deeds ∧ .launched pid l ∈ deeds

/-- Nothing runs that belongs to a service launched meanwhile. -/
def Cleared (m m' : Machine) : Prop :=
  ∀ pid, m.Spawned m' pid → ∀ q, m'.Belongs pid q →
    m'.table.isRunning q ≠ true

/-- All that descend from a process launched meanwhile ended, and not by
the harness's hand. -/
def Expired (m m' : Machine) : Prop :=
  ∀ pid, m.Spawned m' pid → ∀ q, Linked m'.annals.forks pid q →
    q ∈ m'.annals.ends

end Host.Machine

namespace Supervisor

variable {s s' : Supervisor} {m m₁ m' : Machine} {programs : Programs}
  {startupGrace reapTimeout : Nat} {ops : List Operation}
  {deeds : List Deed} {pid q : Pid}

-- ================================================================== stop

/-- Of what belongs to a service just those run on after a stop that ran,
were not attached to it and did not end meanwhile. -/
theorem isRunning_stop_iff (h : Tracks programs s m)
    (howned : s.process = some pid) (hslays : m.Slays (s.stop m).2)
    (hq : m.Belongs pid q) :
    (s.stop m).2.table.isRunning q = true
      ↔ m.table.isRunning q = true ∧ q ≠ pid ∧ ¬m.Attached pid q
        ∧ q ∉ (s.stop m).2.annals.ends := by
  obtain ⟨deeds, hgoes, hkilled, hreaped, -⟩ := goes_stop howned m
  have hgenuine := hgoes.isGenuine h.genuine
  have hlaunched := h.launched pid howned
  have hreal : harnessPid < pid :=
    h.genuine.real_of_launched hlaunched
  have hdead : .killed q ∈ deeds →
      (s.stop m).2.table.isRunning q ≠ true := hslays deeds hgoes.deeds_eq q
  have hattached : q ∈ m.descendants pid ↔ m.Attached pid q :=
    h.genuine.mem_descendants_iff_attached hreal
  -- what runs on was spared: neither the process itself, nor attached, nor
  -- ended of its own accord
  constructor
  · intro hruns
    have hlt : q < m.table.next := by
      rcases hq with rfl | hlinked
      · exact h.genuine.lt_of_launched hlaunched
      · exact (h.genuine.range_of_linked hlinked).2
    refine ⟨(hgoes.follows h.genuine).fades hlt hruns, ?_, ?_,
      fun hends => hgenuine.not_isRunning_of_ends hends hruns⟩
    · rintro rfl
      cases hnoted : s.noted with
      | some ending =>
          refine hgoes.not_isRunning h.genuine hlt (h.seen q howned ?_) hruns
          simp [hnoted]
      | none => exact hdead ((hkilled q).2 (.inr ⟨rfl, hnoted⟩)) hruns
    · intro hmem
      exact hdead ((hkilled q).2 (.inl (hattached.2 hmem))) hruns
  -- what is spared runs on, unless it ends by itself
  · rintro ⟨hruns, hne, hfree, hends⟩
    have hspared : .killed q ∉ deeds := fun hmem =>
      ((hkilled q).1 hmem).elim (fun hmem => hfree (hattached.1 hmem))
        fun heq => hne heq.1
    have hkept : .reaped q ∉ deeds := fun hmem => hne (hreaped q hmem)
    exact (hgenuine.isRunning_iff_of_runsOrEnded
      (hgoes.runs_on h.genuine hruns hspared hkept)).2 hends

/-- After any operations a stop leaves nothing running that belongs to the
service just where each descendant that runs is attached to it or ends in
the meantime. -/
theorem stop_clears_iff (programs : Programs)
    (startupGrace reapTimeout : Nat) (ops : List Operation)
    {s s' : Supervisor} {m m' : Machine}
    (hafter : after programs startupGrace reapTimeout ops = (s, m))
    (howned : s.process = some pid) (hstop : s.stop m = (s', m'))
    (hforks : m'.annals.forks = m.annals.forks) (hslays : m.Slays m') :
    (∀ q, m'.Belongs pid q → m'.table.isRunning q ≠ true)
      ↔ ∀ q, Linked m.annals.forks pid q → m.table.isRunning q = true →
        m.Attached pid q ∨ q ∈ m'.annals.ends := by
  have htracks := tracks_after programs startupGrace reapTimeout ops
  rw [hafter] at htracks
  obtain rfl : m' = (s.stop m).2 := by rw [hstop]
  have hiff : ∀ {q}, m.Belongs pid q → _ := fun hq =>
    isRunning_stop_iff htracks howned hslays hq
  have hbelongs : ∀ {q}, (s.stop m).2.Belongs pid q ↔ m.Belongs pid q := by
    intro q
    unfold Machine.Belongs
    rw [hforks]
  constructor
  · intro hclear q hlinked hruns
    by_contra hleft
    -- such a descendant would be spared, and run on
    obtain ⟨hfree, hends⟩ := not_or.1 hleft
    have hlater := (htracks.genuine.range_of_linked hlinked).1
    exact hclear q (hbelongs.2 (.inr hlinked)) ((hiff (.inr hlinked)).2
      ⟨hruns, (Nat.ne_of_lt hlater).symm, hfree, hends⟩)
  · intro hall q hq hruns
    have hq := hbelongs.1 hq
    obtain ⟨hbefore, hne, hfree, hends⟩ := (hiff hq).1 hruns
    exact (hall q (hq.resolve_left hne) hbefore).elim hfree hends

/-- A shell that has a child work in the background, and itself ends in
the sleep of the harness that comes after so many deeds. -/
def deserting (deeds : Nat) : Programs where
  refuse _ _ := none
  changes
    | .launched pid _ :: _ => [.fork pid (Stat.ascii "sleep")]
    | .slept _ :: past =>
        if past.length = deeds then [.finish (harnessPid + 1) (.exited 0)]
        else []
    | _ => []

/-- A signal has done its work where all who were sent it are dead. -/
theorem slays_of_deeds (later : List Deed)
    (hdeeds : m'.deeds = later ++ m.deeds)
    (hdead : ∀ q ∈ sentenced later, m'.table.isRunning q ≠ true) :
    m.Slays m' := by
  intro deeds hdeeds' q hq
  obtain rfl := List.append_cancel_right (hdeeds.symm.trans hdeeds')
  exact hdead q (mem_sentenced_iff.2 hq)

/-- While the shell runs, the child is attached and the stop ends both. -/
theorem stop_clears_attending :
    ∃ s m s' m', after (deserting 2) 250 2000 [.start served .empty] = (s, m)
      ∧ s.process = some 3 ∧ s.stop m = (s', m')
      ∧ m'.annals.forks = m.annals.forks ∧ m.Slays m'
      ∧ ((∀ q, m'.Belongs 3 q → m'.table.isRunning q ≠ true)
        ↔ ∀ q, Linked m.annals.forks 3 q → m.table.isRunning q = true →
          m.Attached 3 q ∨ q ∈ m'.annals.ends) := by
  obtain ⟨s, m, hafter⟩ : ∃ s m, after (deserting 2) 250 2000
    [.start served .empty] = (s, m) := ⟨_, _, rfl⟩
  obtain ⟨s', m', hstop⟩ : ∃ s' m', s.stop m = (s', m') := ⟨_, _, rfl⟩
  have howned : s.process = some 3 := by cases hafter; rfl
  have hforks : m'.annals.forks = m.annals.forks := by
    cases hafter
    cases hstop
    decide +kernel
  have hslays : m.Slays m' := by
    cases hafter
    cases hstop
    exact slays_of_deeds [.reaped 3, .killed 3, .killed 4] rfl
      (by decide +kernel)
  exact ⟨s, m, s', m', hafter, howned, hstop, hforks, hslays,
    stop_clears_iff (deserting 2) 250 2000 _ hafter howned hstop hforks
      hslays⟩

/-- Once the shell has ended, its child is nobody's that the stop would
look for, and it runs on. -/
theorem stop_spares_deserted :
    ∃ s m s' m', after (deserting 2) 250 2000
        [.pause 100, .start served .empty] = (s, m)
      ∧ s.process = some 3 ∧ s.stop m = (s', m')
      ∧ m'.annals.forks = m.annals.forks ∧ m.Slays m'
      ∧ m'.Belongs 3 4 ∧ m'.table.isRunning 4 = true := by
  refine ⟨_, _, _, _, rfl, rfl, rfl, by decide +kernel, ?_, ?_,
    by decide +kernel⟩
  · exact slays_of_deeds [.reaped 3, .killed 3] rfl
      (by decide +kernel)
  · exact .inr (.single (by decide +kernel))

-- ============================================================ failed start

/-- All that a start does it does to the process that it launched. -/
theorem Starts.goes_of_spawned {r : Except Failure Pid}
    (h : Starts s m r s' m') (hspawned : m.Spawned m' pid) :
    pid = m.table.next
      ∧ ∃ deeds l, m.Goes deeds m' ∧ .launched pid l ∈ deeds
        ∧ ∀ deed ∈ deeds, Aims pid deed := by
  obtain ⟨deeds, l, hdeeds, hl⟩ := hspawned
  obtain ⟨deeds', hgoes, haims, -⟩ := h.goes
  obtain rfl := List.append_cancel_right (hdeeds.symm.trans hgoes.deeds_eq)
  obtain rfl := haims _ hl pid rfl
  exact ⟨rfl, deeds, l, hgoes, hl, haims⟩

/-- What a failed start launched is dead. -/
theorem dead_of_failed (hm : m.IsGenuine) {e : Failure}
    (hstarts : Starts s m (.error e) s' m') (hspawned : m.Spawned m' pid)
    (hslays : m.Slays m') : m'.table.isRunning pid ≠ true := by
  obtain ⟨rfl, deeds, l, hgoes, hl, -⟩ := hstarts.goes_of_spawned hspawned
  have hsomething : m' ≠ m := by
    rintro rfl
    have hnone : deeds = [] := by simpa using hgoes.deeds_eq
    exact List.not_mem_nil (hnone ▸ hl)
  cases hstarts with
  | rejected _ => exact absurd rfl hsomething
  | unlaunched _ => exact absurd rfl hsomething
  | ended _ hlaunch hlook =>
      exact (hlaunch.isGenuine hm).not_isRunning_of_look hlook
  | @hidden _ _ m₁ _ hlaunch =>
      obtain ⟨later, hlater, -⟩ :=
        (m₁.kill m.table.next).goes_wait m.table.next
      have hall := (hlaunch.trans (m₁.goes_kill m.table.next)).trans hlater
      exact hslays _ hall.deeds_eq _ (by simp)

/-- Of what descends from a process that a failed start launched just
those run that did not end. -/
theorem isRunning_failed_start_iff (hm : m.IsGenuine) {e : Failure}
    (hstarts : Starts s m (.error e) s' m') (hspawned : m.Spawned m' pid)
    (hlinked : Linked m'.annals.forks pid q) :
    m'.table.isRunning q = true ↔ q ∉ m'.annals.ends := by
  obtain ⟨rfl, deeds, l, hgoes, -, haims⟩ :=
    hstarts.goes_of_spawned hspawned
  have hm' := hgoes.isGenuine hm
  have hlater := (hm'.range_of_linked hlinked).1
  have hother : ∀ deed, target? deed = some q → deed ∉ deeds :=
    fun deed htarget hdeed =>
      Nat.ne_of_lt hlater (haims deed hdeed q htarget).symm
  obtain ⟨⟨q, p⟩, hlink, rfl⟩ :=
    List.mem_map.1 (Descendants.mem_pids_of_linked hlinked)
  have hnew : ⟨q, p⟩ ∉ m.annals.forks := fun hold =>
    Nat.lt_asymm hlater (hm.kin.forked _ hold).2.2
  exact hm'.isRunning_iff_of_runsOrEnded (hgoes.runs_on_of_forked hm hlink
    hnew (hother (.killed q) rfl) (hother (.reaped q) rfl))

/-- A start that fails leaves nothing running of what it launched just
where all that descends from that ended by itself. -/
theorem cleared_iff_of_failed (hm : m.IsGenuine) {e : Failure}
    (hstarts : Starts s m (.error e) s' m') (hslays : m.Slays m') :
    m.Cleared m' ↔ m.Expired m' := by
  constructor
  · intro hclear pid hspawned q hlinked
    by_contra hends
    exact hclear pid hspawned q (.inr hlinked)
      ((isRunning_failed_start_iff hm hstarts hspawned hlinked).2 hends)
  · rintro hexpired pid hspawned q (rfl | hlinked) hruns
    · exact dead_of_failed hm hstarts hspawned hslays hruns
    · exact (isRunning_failed_start_iff hm hstarts hspawned hlinked).1 hruns
        (hexpired pid hspawned q hlinked)

end Supervisor

end PairingHarness
