/-
What the calls to a supervisor do on the host.

Each call is a run of deeds. A look takes note of an ending where it sees
one and does nothing else (`looks_of_look`); a start is rejected, launches
nothing, or launches one process and comes to one of the three things that
a look can show after the grace (`Starts`); a stop kills the descendants
that the host tells of and then the process, unless its ending was seen,
and from then on only sleeps and takes note of its end (`goes_stop`).

Each relation lists what a call can come to, with the deeds that lead
there, and the theorem beside it says that the call comes to no more.
Later modules go by these: how the deeds are ordered within a call, and
that nothing else is done between them, is only used here.
-/
import PairingHarness.Supervisor
import PairingHarness.Proofs.Host.History

namespace PairingHarness

open Host

variable {s s' : Supervisor} {m m₁ m' : Machine} {deeds : List Deed}
  {pid q : Pid}

-- ================================================================= looks

namespace Host.Machine

/-- What a look shows, and what it does. -/
inductive Looks (m : Machine) (pid : Pid) : Sight → Machine → Prop
  | running (htold : m.programs.withhold m.deeds pid = none)
      (hrunning : m.ending? pid = none) : Looks m pid .running m
  | ended {ending : Ending}
      (htold : m.programs.withhold m.deeds pid = none)
      (hended : m.ending? pid = some ending) :
      Looks m pid (.ended ending) (m.reap pid)
  | hidden {reason : String}
      (hhidden : m.programs.withhold m.deeds pid = some reason) :
      Looks m pid (.hidden reason) m

/-- A look shows one of three things (`try_wait`). -/
theorem looks_of_look {sight : Sight} (h : m.look pid = (sight, m')) :
    m.Looks pid sight m' := by
  unfold look at h
  cases htold : m.programs.withhold m.deeds pid with
  | some reason =>
      rw [htold] at h
      cases h
      exact .hidden htold
  | none =>
      rw [htold] at h
      cases hending : m.ending? pid with
      | none =>
          rw [hending] at h
          cases h
          exact .running htold hending
      | some ending =>
          rw [hending] at h
          cases h
          exact .ended htold hending

/-- A look is a run of deeds: taking note of an ending, or nothing. -/
theorem goes_look (m : Machine) (pid : Pid) :
    ∃ deeds, m.Goes deeds (m.look pid).2
      ∧ ∀ deed ∈ deeds, deed = .reaped pid := by
  cases hlook : m.look pid with
  | mk sight m' =>
      cases looks_of_look hlook with
      | running _ _ => exact ⟨[], .none, fun _ h => absurd h List.not_mem_nil⟩
      | ended _ _ =>
          exact ⟨[.reaped pid], m.goes_reap pid,
            fun _ h => List.mem_singleton.1 h⟩
      | hidden _ => exact ⟨[], .none, fun _ h => absurd h List.not_mem_nil⟩

theorem goes_wait (m : Machine) (pid : Pid) :
    ∃ deeds, m.Goes deeds (m.wait pid)
      ∧ ∀ deed ∈ deeds, deed = .reaped pid := by
  unfold wait
  cases m.programs.withhold m.deeds pid with
  | some reason => exact ⟨[], .none, fun _ h => absurd h List.not_mem_nil⟩
  | none =>
      exact ⟨[.reaped pid], m.goes_reap pid,
        fun _ h => List.mem_singleton.1 h⟩

theorem IsGenuine.lt_of_ending? {ending : Ending} (hm : m.IsGenuine)
    (h : m.ending? pid = some ending) : pid < m.table.next := by
  obtain ⟨e, hfind, -⟩ := Option.bind_eq_some_iff.1 h
  obtain ⟨hmem, rfl⟩ := hm.ordered.find?_eq_some_iff.1 hfind
  exact hm.ordered.below e hmem

/-- Where the ending of a child was seen, it does not run. -/
theorem IsGenuine.not_isRunning_of_look {ending : Ending}
    (hm : m.IsGenuine) (h : m.look pid = (.ended ending, m')) :
    m'.table.isRunning pid ≠ true := by
  cases looks_of_look h with
  | ended _ hended => exact hm.not_isRunning_reap (hm.lt_of_ending? hended)

end Host.Machine

namespace Supervisor

-- ================================================================= start

/-- How a start goes. -/
inductive Starts (s : Supervisor) (m : Machine) :
    Except Failure Pid → Supervisor → Machine → Prop
  /-- There is a service already. -/
  | rejected {pid : Pid} (howned : s.process = some pid) :
      Starts s m (.error (.alreadyRunning pid)) s m
  /-- Nothing was launched. -/
  | unlaunched {reason : String} (hidle : s.process = none) :
      Starts s m (.error (.startup reason)) s m
  /-- What was launched ended in its grace. -/
  | ended {reason : String} {l : Launch} {ending : Ending} {m₁ m' : Machine}
      (hidle : s.process = none)
      (hgoes : m.Goes [.slept s.startupGrace, .launched m.table.next l] m₁)
      (hlook : m₁.look m.table.next = (.ended ending, m')) :
      Starts s m (.error (.startup reason)) s m'
  /-- The host could not tell how it was doing, so it was killed. -/
  | hidden {reason : String} {l : Launch} {m₁ : Machine}
      (hidle : s.process = none)
      (hgoes : m.Goes [.slept s.startupGrace, .launched m.table.next l] m₁) :
      Starts s m (.error (.startup reason)) s
        ((m₁.kill m.table.next).wait m.table.next)
  /-- It runs on and is owned from then on. -/
  | running {l : Launch} {m₁ : Machine} (hidle : s.process = none)
      (hgoes : m.Goes [.slept s.startupGrace, .launched m.table.next l] m₁) :
      Starts s m (.ok m.table.next)
        { s with process := some m.table.next, noted := none } m₁

theorem starts_launch (hidle : s.process = none) (m : Machine)
    (l : Launch) :
    Starts s m (s.launch m l).1 (s.launch m l).2.1 (s.launch m l).2.2 := by
  unfold launch Machine.launch
  cases m.programs.refuse m.deeds l with
  | some reason => exact .unlaunched hidle
  | none =>
      have hgoes : m.Goes [.slept s.startupGrace, .launched m.table.next l]
          ((m.perform (.launched m.table.next l)).sleep s.startupGrace) :=
        .more (.one rfl) trivial
      dsimp only
      generalize (m.perform (.launched m.table.next l)).sleep
        s.startupGrace = m₁ at hgoes
      generalize hlook : m₁.look m.table.next = seen
      obtain ⟨sight, m'⟩ := seen
      cases Machine.looks_of_look hlook with
      | running => exact .running hidle hgoes
      | ended => exact .ended hidle hgoes hlook
      | hidden => exact .hidden hidle hgoes

/-- A start goes in one of the ways that are listed (`start`). -/
theorem starts_start (s : Supervisor) (m : Machine) (settings : Settings)
    (overrides : Overrides) :
    Starts s m (s.start m settings overrides).1
      (s.start m settings overrides).2.1
      (s.start m settings overrides).2.2 := by
  unfold start
  cases howned : s.process with
  | some pid => exact .rejected howned
  | none =>
      dsimp only
      split
      · exact starts_launch howned m _
      · exact .unlaunched howned

-- ================================================================== stop

/-- Killing one after another is a run of deeds. -/
theorem goes_killAll (pids : List Pid) (m : Machine) :
    m.Goes (pids.map Deed.killed).reverse (pids.foldl Machine.kill m) := by
  induction pids generalizing m with
  | nil => exact .none
  | cons pid rest ih =>
      rw [List.map_cons, List.reverse_cons]
      exact (m.goes_kill pid).trans (ih _)

/-- Waiting for the end of a child is sleeping and taking note. -/
theorem goes_awaitEnding (pid : Pid) (looks : Nat) (m : Machine) :
    ∃ deeds, m.Goes deeds (awaitEnding m pid looks)
      ∧ ∀ deed ∈ deeds, deed = .slept pollInterval ∨ deed = .reaped pid := by
  induction looks generalizing m with
  | zero =>
      obtain ⟨deeds, hgoes, hall⟩ := m.goes_look pid
      exact ⟨deeds, hgoes, fun deed h => .inr (hall deed h)⟩
  | succ looks ih =>
      obtain ⟨deeds, hgoes, hall⟩ := m.goes_look pid
      unfold awaitEnding
      generalize m.look pid = seen at hgoes
      obtain ⟨sight, m₁⟩ := seen
      cases sight with
      | running =>
          obtain ⟨later, hlater, hrest⟩ := ih (m₁.sleep pollInterval)
          refine ⟨_, (hgoes.trans (m₁.goes_sleep _)).trans hlater, ?_⟩
          intro deed h
          rcases List.mem_append.1 h with h | h
          · exact hrest deed h
          · rcases List.mem_cons.1 h with rfl | h
            · exact .inl rfl
            · exact .inr (hall deed h)
      | ended ending => exact ⟨deeds, hgoes, fun d h => .inr (hall d h)⟩
      | hidden reason => exact ⟨deeds, hgoes, fun d h => .inr (hall d h)⟩

/-- What a stop does: it kills the descendants of the process that the
host tells of, and the process where its ending was not seen, and takes
note of no other's end. -/
theorem goes_stop (howned : s.process = some pid) (m : Machine) :
    ∃ deeds, m.Goes deeds (s.stop m).2
      ∧ (∀ q, .killed q ∈ deeds
        ↔ q ∈ m.descendants pid ∨ q = pid ∧ s.noted = none)
      ∧ (∀ q, .reaped q ∈ deeds → q = pid)
      ∧ ∀ q l, .launched q l ∉ deeds := by
  have hkills := goes_killAll (m.descendants pid) m
  unfold stop
  rw [howned]
  dsimp only
  -- a process whose end is known is not killed again; its descendants are, in
  -- either case
  cases s.noted with
  | some ending => exact ⟨_, hkills, by simp, by simp, by simp⟩
  | none =>
      obtain ⟨later, hlater, hall⟩ := goes_awaitEnding pid
        ((s.reapTimeout + (pollInterval - 1)) / pollInterval)
        ((killDescendants m pid).kill pid)
      have hnone : ∀ deed ∈ later, (∀ q, deed ≠ .killed q)
          ∧ (∀ q, deed = .reaped q → q = pid)
          ∧ ∀ q l, deed ≠ .launched q l := by
        intro deed h
        rcases hall deed h with rfl | rfl <;> simp [eq_comm]
      refine ⟨_, (hkills.trans (Machine.goes_kill _ pid)).trans hlater,
        ?_, ?_, ?_⟩
      · intro q
        have hlate : .killed q ∉ later := fun h => (hnone _ h).1 q rfl
        simp [hlate, or_comm]
      · intro q h
        rcases List.mem_append.1 h with h | h
        · exact (hnone _ h).2.1 q rfl
        · simp at h
      · intro q l h
        rcases List.mem_append.1 h with h | h
        · exact (hnone _ h).2.2 q l rfl
        · simp at h

-- ============================================================== is it up

/-- Asking leaves the process and the host as they are, unless the ending
of the process is seen and noted. -/
inductive Polls (s : Supervisor) (m : Machine) :
    Supervisor → Machine → Prop
  | same : Polls s m s m
  | ended {pid : Pid} {ending : Ending} {m' : Machine}
      (howned : s.process = some pid)
      (hlook : m.look pid = (.ended ending, m')) :
      Polls s m { s with noted := some ending } m'

/-- A poll goes in one of the ways that are listed (`poll` of the
supervisor). -/
theorem polls_poll (s : Supervisor) (m : Machine) :
    Polls s m (s.poll m).2.1 (s.poll m).2.2 := by
  obtain ⟨process, noted, startupGrace, reapTimeout⟩ := s
  cases process with
  | none => exact .same
  | some pid =>
      cases noted with
      | some ending => exact .same
      | none =>
          unfold poll
          dsimp only
          generalize hlook : m.look pid = seen
          obtain ⟨sight, m'⟩ := seen
          cases Machine.looks_of_look hlook with
          | running => exact .same
          | ended => exact .ended rfl hlook
          | hidden => exact .same

end Supervisor

end PairingHarness
