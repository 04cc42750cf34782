/-
One service at a time.

Whatever is asked of a supervisor, in whatever order and whatever the
processes do meanwhile, it owns every launched process that runs
(`Owns`): a start launches only where nothing is owned, and it either
ends with the process owned or with the process dead; a stop ends with it
dead. The calls keep this (`owns_perform`), so it is true after all of
them (`owns_after`), and what is told of a second start, of a failed one
and of a stop follows from it (`conduct_after`).

That a killed process is dead in time is what is assumed of the host
(`Programs.Prompt`).

The assumption on the host is about the signal and not about the
supervisor: a process that is killed is dead once the time that a stop
waits has passed, and dead before the host stops telling of it. A host
on which the killed linger for ever would leave two services running,
and none of this would be true of it. The last part has a host that
takes its time, to show that the assumption asks for no more than it
says.
-/
import PairingHarness.Proofs.Supervisor.Operation

namespace PairingHarness

open Host

-- ======================================================= the statement

/-- The signal that nothing survives does its work on what the harness
launched: such a process is dead once the harness has slept this long
after it sent the signal, and it is dead where the host cannot tell how
it is doing from then on. -/
structure Host.Programs.Prompt (programs : Programs) (timeout : Nat) :
    Prop where
  slept : ∀ {m m' : Machine} {deeds : List Deed} {pid : Pid},
    m.IsGenuine → m.programs = programs → m.Launched pid →
    (m.kill pid).Goes deeds m' → m.slept + timeout ≤ m'.slept →
    m'.table.isRunning pid ≠ true
  hidden : ∀ {m m' : Machine} {deeds : List Deed} {pid : Pid},
    m.IsGenuine → m.programs = programs → m.Launched pid →
    (m.kill pid).Goes deeds m' → programs.withhold m'.deeds pid ≠ none →
    m'.table.isRunning pid ≠ true

namespace Supervisor

/-- A start succeeded with this process and nothing was stopped since. -/
def Standing (programs : Programs) (startupGrace reapTimeout : Nat)
    (ops : List Operation) (pid : Pid) : Prop :=
  ∃ later settings overrides earlier,
    ops = later ++ .start settings overrides :: earlier
      ∧ (∀ op ∈ later, op.stops = false)
      ∧ ((after programs startupGrace reapTimeout earlier).1.start
          (after programs startupGrace reapTimeout earlier).2
          settings overrides).1 = .ok pid

/-- At most one launched process runs at any time. -/
def Alone (m : Machine) : Prop :=
  ∀ t ∈ m.annals.moments, ∀ p q, m.Launched p → m.Launched q →
    t.isRunning p = true → t.isRunning q = true → p = q

/-- The conduct of a supervisor after operations. -/
structure Conduct (programs : Programs) (startupGrace reapTimeout : Nat)
    (ops : List Operation) (s : Supervisor) (m : Machine) : Prop where
  /-- At no time did two launched processes run. -/
  alone : Alone m
  /-- A further start is rejected exactly where one stands. -/
  rejects : ∀ settings overrides pid,
    (s.start m settings overrides).1 = .error (.alreadyRunning pid)
      ↔ Standing programs startupGrace reapTimeout ops pid
  /-- A start that is rejected does nothing at all. -/
  rejected : ∀ settings overrides pid,
    (s.start m settings overrides).1 = .error (.alreadyRunning pid) →
    (s.start m settings overrides).2 = (s, m)
  /-- A start that fails leaves the process that is owned. -/
  failed : ∀ settings overrides e,
    (s.start m settings overrides).1 = .error e →
    (s.start m settings overrides).2.1.process = s.process
  /-- After a stop nothing is owned and nothing launched runs. -/
  stopped : ∀ op : Operation, op.stops = true →
    (op.perform (s, m)).1.process = none
      ∧ ∀ p, (op.perform (s, m)).2.Launched p →
        (op.perform (s, m)).2.table.isRunning p ≠ true
  /-- A second stop changes nothing. -/
  stoppedTwice : ∀ op op' : Operation, op.stops = true →
    op'.stops = true →
    op'.perform (op.perform (s, m)) = op.perform (s, m)

variable {s s' : Supervisor} {m m₁ m' : Machine} {programs : Programs}
  {startupGrace reapTimeout : Nat} {ops : List Operation}
  {deeds : List Deed} {pid q : Pid}

-- ===================================================== the end of a wait

/-- The time that was slept grows by what a deed sleeps. -/
theorem slept_perform (m : Machine) (deed : Deed) :
    (m.perform deed).slept = deed.duration + m.slept :=
  rfl

/-- No time is taken back. -/
theorem slept_le_of_goes (h : m.Goes deeds m') : m.slept ≤ m'.slept := by
  induction h with
  | none => exact Nat.le_refl _
  | more _ _ ih =>
      rw [slept_perform]
      exact Nat.le_add_left_of_le ih

/-- The wait that ends a stop ends with the process dead: its end is seen,
the host cannot tell of it any more, or the looks are used up and as much
time has passed as the signal may take. -/
theorem dead_of_awaitEnding {looks : Nat}
    (hprompt : programs.Prompt reapTimeout) (hm : m.IsGenuine)
    (hprograms : m.programs = programs) (hlaunched : m.Launched pid)
    (hgoes : (m.kill pid).Goes deeds m₁)
    (htime : m.slept + reapTimeout ≤ m₁.slept + looks * pollInterval) :
    (awaitEnding m₁ pid looks).table.isRunning pid ≠ true := by
  have hkill := (m.goes_kill pid).isGenuine hm
  -- a look that is the last one shows it dead, or cannot show it any more
  have hseen : ∀ {m₁ deeds sight m'}, (m.kill pid).Goes deeds m₁ →
      m₁.look pid = (sight, m') → sight ≠ .running →
      m'.table.isRunning pid ≠ true := by
    intro m₁ deeds sight m' hgoes hlook hsight
    cases Machine.looks_of_look hlook with
    | running _ _ => exact absurd rfl hsight
    | ended _ _ => exact (hgoes.isGenuine hkill).not_isRunning_of_look hlook
    | hidden hhidden =>
        rw [hgoes.programs_eq.trans hprograms] at hhidden
        exact hprompt.hidden hm hprograms hlaunched hgoes
          (hhidden ▸ Option.some_ne_none _)
  induction looks generalizing m₁ deeds with
  | zero =>
      rw [Nat.zero_mul, Nat.add_zero] at htime
      unfold awaitEnding
      cases hlook : m₁.look pid with
      | mk sight m' =>
          cases sight with
          | running =>
              cases Machine.looks_of_look hlook
              exact hprompt.slept hm hprograms hlaunched hgoes htime
          | ended ending => exact hseen hgoes hlook (by simp)
          | hidden reason => exact hseen hgoes hlook (by simp)
  | succ looks ih =>
      unfold awaitEnding
      cases hlook : m₁.look pid with
      | mk sight m' =>
          cases sight with
          | running =>
              cases Machine.looks_of_look hlook
              refine ih (hgoes.trans (Machine.goes_sleep _ pollInterval)) ?_
              rw [Machine.sleep, slept_perform]
              show _ ≤ pollInterval + _ + _
              rw [Nat.succ_mul] at htime
              omega
          | ended ending => exact hseen hgoes hlook (by simp)
          | hidden reason => exact hseen hgoes hlook (by simp)

/-- The wait that ends a failed start ends so too. -/
theorem dead_of_wait (hprompt : programs.Prompt reapTimeout)
    (hm : m.IsGenuine) (hprograms : m.programs = programs)
    (hlaunched : m.Launched pid) :
    ((m.kill pid).wait pid).table.isRunning pid ≠ true := by
  have hkill := (m.goes_kill pid).isGenuine hm
  unfold Machine.wait
  cases hhidden : (m.kill pid).programs.withhold (m.kill pid).deeds pid with
  | some reason =>
      have htold : programs.withhold (m.kill pid).deeds pid ≠ none := by
        rw [← hprograms]
        exact hhidden ▸ Option.some_ne_none _
      exact hprompt.hidden hm hprograms hlaunched .none htold
  | none =>
      have hlt := Nat.lt_of_lt_of_le (hm.lt_of_launched hlaunched)
        ((m.goes_kill pid).follows hm).next
      exact hkill.not_isRunning_reap hlt

-- ========================================================== one at a time

/-- Where launched processes stay alone: not two of them are launched
anew, and one is launched only where none runs. -/
theorem alone_of_goes (hm : m.IsGenuine) (halone : Alone m)
    (hgoes : m.Goes deeds m')
    (hone : ∀ p q l l', .launched p l ∈ deeds → .launched q l' ∈ deeds →
      p = q)
    (hclear : ∀ p q l, .launched p l ∈ deeds → m.Launched q →
      m.table.isRunning q ≠ true) : Alone m' := by
  intro t ht p q hp hq hpruns hqruns
  rcases hgoes.before_or_follows hm ht with hbefore | hfollows
  · -- none of those that are launched later has its number yet
    have hold : ∀ {r}, m'.Launched r → t.isRunning r = true →
        m.Launched r := by
      intro r hr hruns
      refine (hgoes.launched_iff.1 hr).resolve_left ?_
      rintro ⟨l, hl⟩
      have hlt := (hm.sound.ordered t hbefore).lt_of_isRunning hruns
      have hle := (hm.sound.follows t hbefore).next
      rw [hm.table_annals] at hle
      have hge := (hgoes.range_of_launched hm hl).1
      exact Nat.lt_irrefl _
        (Nat.lt_of_lt_of_le hlt (Nat.le_trans hle hge))
    exact halone t hbefore p q (hold hp hpruns) (hold hq hqruns) hpruns
      hqruns
  · have hold : ∀ {r}, m.Launched r → t.isRunning r = true →
        m.table.isRunning r = true := fun hr hruns =>
      hfollows.fades (hm.lt_of_launched hr) hruns
    rcases hgoes.launched_iff.1 hp with ⟨l, hpl⟩ | hpold <;>
      rcases hgoes.launched_iff.1 hq with ⟨l', hql⟩ | hqold
    · exact hone p q l l' hpl hql
    · exact absurd (hold hqold hqruns) (hclear p q l hpl hqold)
    · exact absurd (hold hpold hpruns) (hclear q p l' hql hpold)
    · refine halone m.table ?_ p q hpold hqold (hold hpold hpruns)
        (hold hqold hqruns)
      rw [← hm.table_annals]
      exact List.mem_cons_self

/-- A supervisor owns every launched process that runs. -/
structure Owns (programs : Programs) (reapTimeout : Nat) (s : Supervisor)
    (m : Machine) : Prop where
  tracks : Tracks programs s m
  timeout : s.reapTimeout = reapTimeout
  alone : Alone m
  owned : ∀ p, m.Launched p → m.table.isRunning p = true →
    s.process = some p

/-- A run that launches only where nothing is owned, and after which what
it launched and what was owned before is owned if it runs. -/
theorem Owns.of_goes (h : Owns programs reapTimeout s m)
    (hgoes : m.Goes deeds m')
    (hlaunches : ∀ p l, .launched p l ∈ deeds →
      p = m.table.next ∧ s.process = none)
    (htracks : Tracks programs s' m')
    (htimeout : s'.reapTimeout = s.reapTimeout)
    (howned : ∀ p, (∃ l, .launched p l ∈ deeds) ∨ s.process = some p →
      m'.table.isRunning p = true → s'.process = some p) :
    Owns programs reapTimeout s' m' where
  tracks := htracks
  timeout := htimeout.trans h.timeout
  alone := by
    refine alone_of_goes h.tracks.genuine h.alone hgoes
      (fun p q l l' hp hq => (hlaunches p l hp).1.trans
        (hlaunches q l' hq).1.symm) fun p q l hp hq hruns => ?_
    have hidle := (hlaunches p l hp).2
    rw [h.owned q hq hruns] at hidle
    cases hidle
  owned := fun p hp hruns => by
    refine howned p ?_ hruns
    rcases hgoes.launched_iff.1 hp with ⟨l, hl⟩ | hold
    · exact .inl ⟨l, hl⟩
    · exact .inr (h.owned p hold ((hgoes.follows h.tracks.genuine).fades
        (h.tracks.genuine.lt_of_launched hold) hruns))

-- ============================================================ each call

/-- A supervisor that was just made owns all that runs, which is nothing. -/
theorem owns_idle (programs : Programs) (startupGrace reapTimeout : Nat) :
    Owns programs reapTimeout (idle startupGrace reapTimeout)
      (Machine.start programs) where
  tracks := tracks_idle programs startupGrace reapTimeout
  timeout := rfl
  alone := fun _ _ _ _ ⟨_, hl⟩ => absurd hl List.not_mem_nil
  owned := fun _ ⟨_, hl⟩ => absurd hl List.not_mem_nil

/-- A start leaves what it launched dead, or owned. -/
theorem owns_start (hprompt : programs.Prompt reapTimeout)
    (h : Owns programs reapTimeout s m) {r : Except Failure Pid}
    (hstarts : Starts s m r s' m') : Owns programs reapTimeout s' m' := by
  obtain ⟨deeds, hgoes, hlaunches⟩ := hstarts.launches
  have htracks := tracks_start h.tracks hstarts
  have hnew : ∀ {p}, s.process = none →
      (∃ l, .launched p l ∈ deeds) ∨ s.process = some p →
      p = m.table.next := by
    intro p hidle hp
    obtain ⟨l, hl⟩ := hp.resolve_right (by simp [hidle])
    exact (hlaunches p l hl).1
  -- by the way the start ends; only a process it launched itself is new, and
  -- it is owned or ended
  cases hstarts with
  | rejected _ => exact h
  | unlaunched _ => exact h
  | ended hidle hlaunch hlook =>
      refine h.of_goes hgoes hlaunches htracks rfl fun p hp hruns => ?_
      obtain rfl := hnew hidle hp
      exact absurd hruns ((hlaunch.isGenuine h.tracks.genuine
        ).not_isRunning_of_look hlook)
  | hidden hidle hlaunch =>
      refine h.of_goes hgoes hlaunches htracks rfl fun p hp hruns => ?_
      obtain rfl := hnew hidle hp
      exact absurd hruns (dead_of_wait hprompt
        (hlaunch.isGenuine h.tracks.genuine)
        (hlaunch.programs_eq.trans h.tracks.programs_eq)
        (hlaunch.launched_iff.2 (.inl ⟨_,
          List.mem_cons_of_mem _ (List.mem_singleton_self _)⟩)))
  | running hidle hlaunch =>
      refine h.of_goes hgoes hlaunches htracks rfl fun p hp _ => ?_
      obtain rfl := hnew hidle hp
      rfl

/-- A stop that kills the process waits until it is dead. -/
theorem dead_of_stop (hprompt : programs.Prompt reapTimeout)
    (h : Tracks programs s m) (htimeout : s.reapTimeout = reapTimeout)
    (howned : s.process = some pid) :
    (s.stop m).2.table.isRunning pid ≠ true := by
  have hkills := goes_killAll (m.descendants pid) m
  have hlaunched := h.launched pid howned
  cases hnoted : s.noted with
  | some ending =>
      obtain ⟨deeds, hgoes, -⟩ := goes_stop howned m
      refine hgoes.not_isRunning h.genuine
        (h.genuine.lt_of_launched hlaunched) (h.seen pid howned ?_)
      simp [hnoted]
  | none =>
      unfold stop
      rw [howned]
      dsimp only
      rw [hnoted]
      refine dead_of_awaitEnding hprompt (hkills.isGenuine h.genuine)
        (hkills.programs_eq.trans h.programs_eq)
        (hkills.launched_iff.2 (.inr hlaunched)) .none ?_
      -- as many looks as fill the time
      have hfill : s.reapTimeout
          ≤ (s.reapTimeout + (pollInterval - 1)) / pollInterval
            * pollInterval := by
        unfold pollInterval
        omega
      have hkill : ((m.descendants pid).foldl Machine.kill m).slept
          ≤ (((m.descendants pid).foldl Machine.kill m).kill pid).slept :=
        slept_le_of_goes (Machine.goes_kill _ pid)
      rw [← htimeout]
      exact Nat.add_le_add hkill hfill

/-- A stop leaves nothing owned. -/
theorem owns_stop (hprompt : programs.Prompt reapTimeout)
    (h : Owns programs reapTimeout s m) :
    Owns programs reapTimeout (s.stop m).1 (s.stop m).2 := by
  obtain ⟨deeds, hgoes, hlaunches⟩ := goes_perform .stop s m
  cases howned : s.process with
  | none =>
      rw [stop_of_idle howned]
      exact h
  | some pid =>
      refine h.of_goes hgoes hlaunches (tracks_stop h.tracks)
        (reapTimeout_stop s m) fun p hp hruns => ?_
      have hp : s.process = some p := hp.resolve_left fun ⟨l, hl⟩ => by
        have hidle := (hlaunches p l hl).2
        rw [howned] at hidle
        cases hidle
      exact absurd hruns (dead_of_stop hprompt h.tracks h.timeout hp)

/-- Where nothing is launched and the same is owned, nothing changes. -/
theorem Owns.unlaunched (h : Owns programs reapTimeout s m)
    (hgoes : m.Goes deeds m') (hnone : ∀ p l, .launched p l ∉ deeds)
    (htracks : Tracks programs s' m')
    (htimeout : s'.reapTimeout = s.reapTimeout)
    (hsame : s'.process = s.process) : Owns programs reapTimeout s' m' :=
  h.of_goes hgoes (fun p l hp => absurd hp (hnone p l)) htracks htimeout
    fun p hp _ => hsame.trans (hp.resolve_left fun ⟨l, hl⟩ => hnone p l hl)

/-- A question whether the service runs changes no owner. -/
theorem owns_poll (h : Owns programs reapTimeout s m)
    (hpolls : Polls s m s' m') : Owns programs reapTimeout s' m' := by
  obtain ⟨deeds, hgoes, hnone⟩ := hpolls.goes
  have htracks := tracks_poll h.tracks hpolls
  cases hpolls with
  | same => exact h
  | ended _ _ => exact h.unlaunched hgoes hnone htracks rfl rfl

-- ========================================================= all the calls

theorem owns_perform (hprompt : programs.Prompt reapTimeout)
    (h : Owns programs reapTimeout s m) (op : Operation) :
    Owns programs reapTimeout (op.perform (s, m)).1
      (op.perform (s, m)).2 := by
  cases op with
  | start settings overrides =>
      exact owns_start hprompt h (starts_start s m settings overrides)
  | stop => exact owns_stop hprompt h
  | isRunning => exact owns_poll h (polls_poll s m)
  | drop => exact owns_stop hprompt h
  | pause ms =>
      exact h.unlaunched (m.goes_sleep ms) (by simp)
        (tracks_perform h.tracks (.pause ms)) rfl rfl

/-- So it is after all operations. -/
theorem owns_after (hprompt : programs.Prompt reapTimeout)
    (startupGrace : Nat) (ops : List Operation) :
    Owns programs reapTimeout
      (after programs startupGrace reapTimeout ops).1
      (after programs startupGrace reapTimeout ops).2 := by
  induction ops with
  | nil => exact owns_idle programs startupGrace reapTimeout
  | cons op past ih => exact owns_perform hprompt ih op

-- ============================================================= standing

/-- One operation more: it is the start that succeeded, or one stands from
before and it does not stop that. -/
theorem standing_cons_iff {op : Operation} {past : List Operation} :
    Standing programs startupGrace reapTimeout (op :: past) pid
      ↔ (∃ settings overrides, op = .start settings overrides
          ∧ ((after programs startupGrace reapTimeout past).1.start
              (after programs startupGrace reapTimeout past).2
              settings overrides).1 = .ok pid)
        ∨ op.stops = false
          ∧ Standing programs startupGrace reapTimeout past pid := by
  constructor
  · rintro ⟨later, settings, overrides, earlier, hops, hkept, hstart⟩
    cases later with
    | nil =>
        cases hops
        exact .inl ⟨settings, overrides, rfl, hstart⟩
    | cons last later =>
        cases hops
        exact .inr ⟨hkept _ List.mem_cons_self, later, settings, overrides,
          earlier, rfl, fun op hop => hkept op (List.mem_cons_of_mem _ hop),
          hstart⟩
  · rintro (⟨settings, overrides, rfl, hstart⟩
      | ⟨hstops, later, settings, overrides, earlier, rfl, hkept, hstart⟩)
    · exact ⟨[], settings, overrides, past, rfl,
        fun _ h => absurd h List.not_mem_nil, hstart⟩
    · exact ⟨op :: later, settings, overrides, earlier, rfl,
        List.forall_mem_cons.2 ⟨hstops, hkept⟩, hstart⟩

/-- What is owned is what the last start gave, if nothing was stopped
since. -/
theorem process_after_eq_some_iff :
    (after programs startupGrace reapTimeout ops).1.process = some pid
      ↔ Standing programs startupGrace reapTimeout ops pid := by
  induction ops with
  | nil =>
      refine ⟨fun h => (by cases h), fun h => ?_⟩
      obtain ⟨later, _, _, _, hops, -⟩ := h
      simp at hops
  | cons op past ih =>
      rw [standing_cons_iff, ← ih]
      show (op.perform (after programs startupGrace reapTimeout
        past)).1.process = some pid ↔ _
      generalize after programs startupGrace reapTimeout past = before
      obtain ⟨s, m⟩ := before
      cases op with
      | start settings overrides =>
          show (s.start m settings overrides).2.1.process = some pid ↔ _
          rw [(starts_start s m settings overrides).process_eq_some_iff]
          simp [Operation.stops]
      | stop => simp [Operation.perform, Operation.stops, process_stop]
      | isRunning =>
          show (s.poll m).2.1.process = some pid ↔ _
          rw [(polls_poll s m).process_eq]
          simp [Operation.stops]
      | drop => simp [Operation.perform, Operation.stops, process_stop]
      | pause ms => simp [Operation.perform, Operation.stops]

-- ============================================================ the conduct

/-- A start is rejected, and then does nothing, where something is owned. -/
theorem Starts.rejected_iff {r : Except Failure Pid}
    (h : Starts s m r s' m') :
    r = .error (.alreadyRunning pid) ↔ s.process = some pid := by
  cases h with
  | rejected howned => simp [howned, eq_comm]
  | unlaunched hidle => simp [hidle]
  | ended hidle _ _ => simp [hidle]
  | hidden hidle _ => simp [hidle]
  | running hidle _ => simp [hidle]

theorem Starts.eq_of_rejected {r : Except Failure Pid}
    (h : Starts s m r s' m') (hrejected : r = .error (.alreadyRunning pid)) :
    s' = s ∧ m' = m := by
  cases h with
  | rejected _ => exact ⟨rfl, rfl⟩
  | _ => cases hrejected

/-- After any operations a supervisor is conducted as it should be: no two
launched processes ever run at a time, a start is rejected exactly while
one stands, one that fails changes nothing that is owned, and a stop
leaves nothing running that was launched, and is not needed twice. -/
theorem conduct_after (hprompt : programs.Prompt reapTimeout)
    (startupGrace : Nat) (ops : List Operation) :
    Conduct programs startupGrace reapTimeout ops
      (after programs startupGrace reapTimeout ops).1
      (after programs startupGrace reapTimeout ops).2 := by
  have howns := owns_after hprompt startupGrace ops
  have hstanding : ∀ {pid}, _ ↔ Standing programs startupGrace reapTimeout
    ops pid := process_after_eq_some_iff
  -- from here on only the state counts, not the operations that led to it
  generalize after programs startupGrace reapTimeout ops = now at *
  obtain ⟨s, m⟩ := now
  have hstarts := starts_start s m
  exact {
    alone := howns.alone
    rejects := fun settings overrides pid =>
      (hstarts settings overrides).rejected_iff.trans hstanding
    rejected := fun settings overrides pid h => by
      obtain ⟨hs, hm⟩ := (hstarts settings overrides).eq_of_rejected h
      exact Prod.ext hs hm
    failed := fun settings overrides e h => by
      refine Option.ext fun pid => ?_
      rw [(hstarts settings overrides).process_eq_some_iff, h]
      simp
    stopped := fun op hop => by
      rw [op.perform_of_stops hop]
      have hstopped := owns_stop hprompt howns
      refine ⟨process_stop s m, fun p hp hruns => ?_⟩
      have howned := hstopped.owned p hp hruns
      rw [process_stop] at howned
      cases howned
    stoppedTwice := fun op op' hop hop' => by
      rw [op.perform_of_stops hop]
      show op'.perform ((s.stop m).1, (s.stop m).2) = _
      rw [op'.perform_of_stops hop', stop_of_idle (process_stop s m)] }

-- ======================================== a host that takes its time

/-- Programs that die of the signal only once the harness sleeps. -/
def lagging : Programs where
  refuse _ _ := none
  lingers _ _ := true
  changes
    | .slept _ :: past =>
        (sentenced past).map fun pid => .finish pid (.signalled killSignal)
    | _ => []

/-- Who is ended is dead when all are. -/
theorem dead_of_finished {t : Table} {pids : List Pid} {ending : Ending}
    (h : t.Ordered) (hlt : q < t.next) (hq : q ∈ pids) :
    (t.applyAll (pids.map fun pid => .finish pid ending)).isRunning q
      ≠ true := by
  induction pids generalizing t with
  | nil => cases hq
  | cons pid rest ih =>
      have hnext := h.finish pid ending
      have hlt' : q < (t.finish pid ending).next :=
        (Table.next_finish t pid ending).symm ▸ hlt
      rcases List.mem_cons.1 hq with rfl | hq
      · intro hruns
        have hstill := (hnext.follows_applyAll _).fades hlt' hruns
        exact ((h.isRunning_finish q ending).1 hstill).2 rfl
      · exact ih hnext hlt' hq

/-- They do so in time if the harness sleeps at all. -/
theorem prompt_lagging : lagging.Prompt 1 := by
  -- a killed process of these programs is gone after the first sleep, however
  -- short
  have hlate : ∀ {m m' : Machine} {deeds pid}, m.IsGenuine →
      m.programs = lagging → m.Launched pid → (m.kill pid).Goes deeds m' →
      m'.slept = m.slept ∨ m'.table.isRunning pid ≠ true := by
    intro m m' deeds pid hm hprograms hlaunched hgoes
    have hkill := (m.goes_kill pid).isGenuine hm
    have hlt : pid < (m.kill pid).table.next :=
      Nat.lt_of_lt_of_le (hm.lt_of_launched hlaunched)
        ((m.goes_kill pid).follows hm).next
    induction hgoes with
    | none => exact .inl (slept_perform m _ |>.trans (Nat.zero_add _))
    | @more deeds m₁ deed hgoes hfits ih =>
        have hgenuine := hgoes.isGenuine hkill
        have hnow := Nat.lt_of_lt_of_le hlt (hgoes.follows hkill).next
        -- nothing slept so far, or dead already; the first sleep leads from
        -- the one to the other
        rcases ih with hsame | hdead
        · cases deed with
          | slept ms =>
              refine .inr ?_
              have hsentenced : pid ∈ sentenced m₁.deeds := by
                rw [hgoes.deeds_eq]
                exact mem_sentenced_iff.2
                  (List.mem_append_right _ List.mem_cons_self)
              have hprograms₁ : m₁.programs = lagging :=
                hgoes.programs_eq.trans hprograms
              show (m₁.table.applyAll
                (m₁.programs.changes _)).isRunning pid ≠ true
              rw [hprograms₁]
              exact dead_of_finished hgenuine.ordered hnow hsentenced
          | _ => exact .inl ((slept_perform m₁ _).trans
              ((Nat.zero_add _).trans hsame))
        · exact .inr ((Machine.Goes.one hfits).not_isRunning hgenuine hnow
            hdead)
  exact {
    slept := fun hm hprograms hlaunched hgoes htime =>
      (hlate hm hprograms hlaunched hgoes).resolve_left fun hsame =>
        by omega
    hidden := fun _ _ _ _ htold => absurd rfl htold }

/-- There a supervisor that was asked to start, was left alone for a
second, was asked to stop and asked to start again owns the second of the
processes that it launched, and its conduct is as it should be. -/
theorem conduct_lagging :
    (after lagging 250 1 [.start served .empty, .stop, .pause 1000,
        .start served .empty]).1.process = some 4
      ∧ Conduct lagging 250 1 [.start served .empty, .stop, .pause 1000,
          .start served .empty]
        (after lagging 250 1 [.start served .empty, .stop, .pause 1000,
          .start served .empty]).1
        (after lagging 250 1 [.start served .empty, .stop, .pause 1000,
          .start served .empty]).2 :=
  ⟨by decide +kernel, conduct_after prompt_lagging 250 _⟩

end Supervisor

end PairingHarness
