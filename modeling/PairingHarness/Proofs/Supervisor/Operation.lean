/-
A supervisor after any operations.

Starts, stops, questions whether it still runs, drops and pauses are the
operations on a supervisor, and each is a run of deeds that launches a
process only where none is owned (`goes_perform`). What a supervisor owns
is a process that it launched, and where its ending was seen it is dead
(`Tracks`); each operation keeps that, so it holds after all of them
(`tracks_after`).

Operations are data, so that a history of a supervisor is a list and a
statement about every history is an induction on it. A drop is a stop
(`drop`), and pauses are in the list because processes do something
while nobody asks: without them nothing could end between two calls.
-/
import PairingHarness.Proofs.Supervisor.Calls

namespace PairingHarness

open Host

namespace Supervisor

-- ============================================================= vocabulary

/-- What may be done with a supervisor, and time that passes between. -/
inductive Operation where
  | start (settings : Settings) (overrides : Overrides)
  | stop
  | isRunning
  | drop
  | pause (ms : Nat)

namespace Operation

/-- What becomes of a supervisor and the host. A supervisor that is
dropped stops its service. -/
def perform : Operation → Supervisor × Machine → Supervisor × Machine
  | start settings overrides, (s, m) => (s.start m settings overrides).2
  | stop, (s, m) => s.stop m
  | isRunning, (s, m) => (s.poll m).2
  | drop, (s, m) => s.stop m
  | pause ms, (s, m) => (s, m.sleep ms)

/-- Whether this stops the service. -/
def stops : Operation → Bool
  | stop | drop => true
  | _ => false

end Operation

/-- A supervisor and its host after operations, given latest first. -/
def after (programs : Programs) (startupGrace reapTimeout : Nat) :
    List Operation → Supervisor × Machine
  | [] => (idle startupGrace reapTimeout, Machine.start programs)
  | op :: past => op.perform (after programs startupGrace reapTimeout past)

/-- Settings with a command. -/
def served : Settings :=
  { Settings.defaults with appPath := "pairing --serve" }

/-- What a supervisor knows of its process. -/
structure Tracks (programs : Programs) (s : Supervisor) (m : Machine) :
    Prop where
  genuine : m.IsGenuine
  programs_eq : m.programs = programs
  /-- It launched it. -/
  launched : ∀ p, s.process = some p → m.Launched p
  /-- Where its ending was seen it is dead. -/
  seen : ∀ p, s.process = some p → s.noted ≠ none →
    m.table.isRunning p ≠ true

variable {s s' : Supervisor} {m m₁ m' : Machine} {programs : Programs}
  {startupGrace reapTimeout : Nat} {deeds : List Deed} {pid q : Pid}

-- ======================================================= one run of deeds

/-- A stop does nothing where nothing is owned. -/
theorem stop_of_idle (hidle : s.process = none) (m : Machine) :
    s.stop m = (s, m) := by
  unfold stop
  rw [hidle]

/-- After a stop nothing is owned. -/
theorem process_stop (s : Supervisor) (m : Machine) :
    (s.stop m).1.process = none := by
  unfold stop
  cases hprocess : s.process with
  | none => exact hprocess
  | some pid => cases s.noted <;> rfl

theorem reapTimeout_stop (s : Supervisor) (m : Machine) :
    (s.stop m).1.reapTimeout = s.reapTimeout := by
  unfold stop
  cases s.process with
  | none => rfl
  | some pid => cases s.noted <;> rfl

theorem Operation.perform_of_stops {op : Operation} (h : op.stops = true)
    (s : Supervisor) (m : Machine) : op.perform (s, m) = s.stop m := by
  cases op with
  | stop => rfl
  | drop => rfl
  | _ => cases h

/-- The process that a deed is done to, if it is done to one. -/
def target? : Deed → Option Pid
  | .launched pid _ | .killed pid | .reaped pid => some pid
  | .slept _ => none

/-- The processes that were sent the signal. -/
def sentenced (deeds : List Deed) : List Pid :=
  deeds.filterMap fun deed => match deed with
    | .killed pid => some pid
    | _ => none

/-- Sentenced is who was sent the signal. -/
theorem mem_sentenced_iff : q ∈ sentenced deeds ↔ .killed q ∈ deeds := by
  unfold sentenced
  rw [List.mem_filterMap]
  constructor
  · rintro ⟨deed, hdeed, hq⟩
    cases deed with
    | killed pid => exact Option.some.inj hq ▸ hdeed
    | _ => cases hq
  · exact fun hq => ⟨_, hq, rfl⟩

/-- A deed is done to no other process than this one. -/
def Aims (pid : Pid) (deed : Deed) : Prop :=
  ∀ p, target? deed = some p → p = pid

theorem aims_of_reaped {later : List Deed}
    (h : ∀ deed ∈ later, deed = .reaped pid) :
    ∀ deed ∈ later, Aims pid deed := by
  intro deed hdeed p hp
  obtain rfl := h deed hdeed
  exact (Option.some.inj hp).symm

theorem aims_launch (pid : Pid) (l : Launch) (ms : Nat) :
    ∀ deed ∈ [Deed.slept ms, .launched pid l], Aims pid deed := by
  simp [Aims, target?]

/-- Whatever a start does it does to the one process that it launches, and
only where nothing is owned. -/
theorem Starts.goes {r : Except Failure Pid} (h : Starts s m r s' m') :
    ∃ deeds, m.Goes deeds m' ∧ (∀ deed ∈ deeds, Aims m.table.next deed)
      ∧ (deeds = [] ∨ s.process = none) := by
  cases h with
  | rejected _ => exact ⟨[], .none, by simp, .inl rfl⟩
  | unlaunched _ => exact ⟨[], .none, by simp, .inl rfl⟩
  | @ended _ l _ m₁ _ hidle hgoes hlook =>
      obtain ⟨later, hlater, hall⟩ := m₁.goes_look m.table.next
      rw [hlook] at hlater
      exact ⟨_, hgoes.trans hlater, List.forall_mem_append.2
        ⟨aims_of_reaped hall, aims_launch _ l _⟩, .inr hidle⟩
  | @hidden _ l m₁ hidle hgoes =>
      obtain ⟨later, hlater, hall⟩ :=
        (m₁.kill m.table.next).goes_wait m.table.next
      refine ⟨_, (hgoes.trans (m₁.goes_kill m.table.next)).trans hlater,
        List.forall_mem_append.2 ⟨aims_of_reaped hall,
          List.forall_mem_append.2 ⟨?_, aims_launch _ l _⟩⟩, .inr hidle⟩
      simp [Aims, target?]
  | @running l m₁ hidle hgoes =>
      exact ⟨_, hgoes, aims_launch _ l _, .inr hidle⟩

/-- A start launches only where nothing is owned. -/
theorem Starts.launches {r : Except Failure Pid} (h : Starts s m r s' m') :
    ∃ deeds, m.Goes deeds m' ∧ ∀ p l, .launched p l ∈ deeds →
      p = m.table.next ∧ s.process = none := by
  obtain ⟨deeds, hgoes, haims, hidle⟩ := h.goes
  refine ⟨deeds, hgoes, fun p l hp => ⟨haims _ hp p rfl, ?_⟩⟩
  exact hidle.resolve_left (List.ne_nil_of_mem hp)

/-- A question whether the service runs launches nothing. -/
theorem Polls.goes (h : Polls s m s' m') :
    ∃ deeds, m.Goes deeds m' ∧ ∀ p l, .launched p l ∉ deeds := by
  cases h with
  | same => exact ⟨[], .none, by simp⟩
  | ended _ hlook =>
      obtain ⟨deeds, hgoes, hall⟩ := Machine.goes_look m _
      rw [hlook] at hgoes
      exact ⟨deeds, hgoes, fun p l hp => by cases hall _ hp⟩

/-- So does any other operation. -/
theorem goes_perform (op : Operation) (s : Supervisor) (m : Machine) :
    ∃ deeds, m.Goes deeds (op.perform (s, m)).2
      ∧ ∀ p l, .launched p l ∈ deeds →
        p = m.table.next ∧ s.process = none := by
  have hstop : ∃ deeds, m.Goes deeds (s.stop m).2
      ∧ ∀ p l, .launched p l ∈ deeds →
        p = m.table.next ∧ s.process = none := by
    cases howned : s.process with
    | none =>
        rw [stop_of_idle howned]
        exact ⟨[], .none, by simp⟩
    | some pid =>
        obtain ⟨deeds, hgoes, -, -, hnone⟩ := goes_stop howned m
        exact ⟨deeds, hgoes, fun p l hp => absurd hp (hnone p l)⟩
  cases op with
  | start settings overrides => exact (starts_start s m _ _).launches
  | stop => exact hstop
  | isRunning =>
      obtain ⟨deeds, hgoes, hnone⟩ := (polls_poll s m).goes
      exact ⟨deeds, hgoes, fun p l hp => absurd hp (hnone p l)⟩
  | drop => exact hstop
  | pause ms => exact ⟨_, m.goes_sleep ms, by simp⟩

-- ============================================================ what it knows

/-- What is owned after a start is what it gave, or what was owned. -/
theorem Starts.process_eq_some_iff {r : Except Failure Pid}
    (h : Starts s m r s' m') :
    s'.process = some pid ↔ r = .ok pid ∨ s.process = some pid := by
  cases h with
  | running hidle _ => simp [hidle]
  | _ => simp

theorem Polls.process_eq (h : Polls s m s' m') :
    s'.process = s.process := by
  cases h <;> rfl

theorem tracks_idle (programs : Programs) (startupGrace reapTimeout : Nat) :
    Tracks programs (idle startupGrace reapTimeout)
      (Machine.start programs) where
  genuine := Machine.isGenuine_start programs
  programs_eq := rfl
  launched := fun _ hp => by cases hp
  seen := fun _ hp => by cases hp

/-- Where the same process is owned, if any, it was launched and stays
dead; there is only to see whether an ending that was noted is there. -/
theorem Tracks.of_goes (h : Tracks programs s m) (hgoes : m.Goes deeds m')
    (hprocess : ∀ p, s'.process = some p → s.process = some p)
    (hnoted : ∀ p, s'.process = some p → s'.noted ≠ none →
      s.noted ≠ none ∨ m'.table.isRunning p ≠ true) :
    Tracks programs s' m' where
  genuine := hgoes.isGenuine h.genuine
  programs_eq := hgoes.programs_eq.trans h.programs_eq
  launched := fun p hp =>
    hgoes.launched_iff.2 (.inr (h.launched p (hprocess p hp)))
  seen := fun p hp hp' => by
    rcases hnoted p hp hp' with hbefore | hdead
    · have hlaunched := h.launched p (hprocess p hp)
      exact hgoes.not_isRunning h.genuine
        (h.genuine.lt_of_launched hlaunched)
        (h.seen p (hprocess p hp) hbefore)
    · exact hdead

/-- A start keeps track of what it launched, -/
theorem tracks_start (h : Tracks programs s m) {r : Except Failure Pid}
    (hstarts : Starts s m r s' m') : Tracks programs s' m' := by
  obtain ⟨deeds, hgoes, -⟩ := hstarts.goes
  cases hstarts with
  | @running l m₁ hidle hlaunch =>
      exact {
        genuine := hgoes.isGenuine h.genuine
        programs_eq := hgoes.programs_eq.trans h.programs_eq
        launched := fun p hp => by
          cases hp
          exact hlaunch.launched_iff.2
            (.inl ⟨l, List.mem_cons_of_mem _ List.mem_cons_self⟩)
        seen := fun _ _ hnoted => absurd rfl hnoted }
  | _ => exact h.of_goes hgoes (fun _ hp => hp) fun _ _ hnoted => .inl hnoted

/-- and a question keeps track of what it saw end. -/
theorem tracks_poll (h : Tracks programs s m) (hpolls : Polls s m s' m') :
    Tracks programs s' m' := by
  obtain ⟨deeds, hgoes, -⟩ := hpolls.goes
  cases hpolls with
  | same => exact h
  | ended howned hlook =>
      refine h.of_goes hgoes (fun _ hp => hp) fun p hp _ => .inr ?_
      cases howned.symm.trans hp
      exact h.genuine.not_isRunning_of_look hlook

theorem tracks_stop (h : Tracks programs s m) :
    Tracks programs (s.stop m).1 (s.stop m).2 := by
  obtain ⟨deeds, hgoes, -⟩ := goes_perform .stop s m
  have hnone : ∀ p, (s.stop m).1.process ≠ some p := fun p hp => by
    simp [process_stop] at hp
  exact h.of_goes hgoes (fun p hp => absurd hp (hnone p))
    fun p hp => absurd hp (hnone p)

theorem tracks_perform (h : Tracks programs s m) (op : Operation) :
    Tracks programs (op.perform (s, m)).1 (op.perform (s, m)).2 := by
  cases op with
  | start settings overrides => exact tracks_start h (starts_start s m _ _)
  | stop => exact tracks_stop h
  | isRunning => exact tracks_poll h (polls_poll s m)
  | drop => exact tracks_stop h
  | pause ms =>
      exact h.of_goes (m.goes_sleep ms) (fun _ hp => hp)
        fun _ _ hnoted => .inl hnoted

/-- So what a supervisor has is what its deeds on the host say that it has.
-/
theorem tracks_after (programs : Programs) (startupGrace reapTimeout : Nat)
    (ops : List Operation) :
    Tracks programs (after programs startupGrace reapTimeout ops).1
      (after programs startupGrace reapTimeout ops).2 := by
  induction ops with
  | nil => exact tracks_idle programs startupGrace reapTimeout
  | cons op past ih => exact tracks_perform ih op

end Supervisor

end PairingHarness
