/-
How a conformance run goes.

Scenarios run one after another until one fails, each in the world that
the one before it left and with a chance of its own. `Passes` says that
scenarios pass one after another between two worlds. A list is run from
the front, and the scenarios that pass put what is told of them before
the account of the rest (`runScenarios_of_passes`), so what a list comes
to is decided by the longest start of it that passes (`Goes`,
`Goes.longest`): it is the whole list, or the scenario behind it fails or
waits for ever, and those behind that one are not run.

The service is launched before the scenarios, where there is one to
launch, and stopped after them (`Serves`); neither adds anything to what
is told (`run_of_serves`).

The relations come first and say what a run may come to, each
constructor one case: all scenarios pass, one fails, one waits for ever.
That running comes to just that is one induction on what passes
(`runScenarios_of_passes`) and one line for each way to end, and no
proof about reports or exit codes opens the loop again.
-/
import PairingHarness.Conformance
import PairingHarness.Proofs.Scenario.MaxExchange

namespace PairingHarness.Conformance

open Host Network

variable {p : Plan} {s : Settings} {timing : Timing}
  {chances : Nat → Chance} {w w₁ w₂ w' : World} {m m' : Machine}
  {kind : ScenarioKind} {kinds later : List ScenarioKind}
  {passed other : List (ScenarioKind × Nat)} {service : Option Pid}
  {o : Outcome (Account (List (ScenarioKind × Nat)))}

-- ======================================================= the statement

/-- Scenarios pass one after another, the first of them with the first
chance. Each is noted with the time that was spent in its pauses. -/
inductive Passes (s : Settings) (timing : Timing) :
    (Nat → Chance) → World → List (ScenarioKind × Nat) → World → Prop where
  | none (chances : Nat → Chance) (w : World) :
      Passes s timing chances w [] w
  | more {chances : Nat → Chance} {w w₁ w' : World} {kind : ScenarioKind}
      {rest : List (ScenarioKind × Nat)}
      (hrun : Scenario.run ⟨s, timing, chances 0⟩ kind w = (.done (), w₁))
      (hrest : Passes s timing (fun i => chances (i + 1)) w₁ rest w') :
      Passes s timing chances w ((kind, w₁.paused - w.paused) :: rest) w'

/-- What is told of scenarios that pass: of each that it was started and
that it passed. -/
def told (passed : List (ScenarioKind × Nat)) : List Progress :=
  passed.flatMap fun x => [.started x.1, .passed x.1 x.2]

/-- How a list of scenarios goes: which of them pass, what comes of it,
and the world that is left. Whatever is behind a scenario that does not
pass has no part in it. -/
inductive Goes (s : Settings) (timing : Timing) (chances : Nat → Chance)
    (w : World) : List ScenarioKind → List (ScenarioKind × Nat) →
    Outcome (Account (List (ScenarioKind × Nat))) → World → Prop where
  /-- All pass. -/
  | ends {passed : List (ScenarioKind × Nat)} {w' : World}
      (hpasses : Passes s timing chances w passed w') :
      Goes s timing chances w (passed.map Prod.fst) passed
        (.done ⟨told passed, .ok passed⟩) w'
  /-- Some pass and the next one fails. -/
  | fails {passed : List (ScenarioKind × Nat)} {kind : ScenarioKind}
      {cause : Failure} {w₁ w' : World}
      (hpasses : Passes s timing chances w passed w₁)
      (hrun : Scenario.run ⟨s, timing, chances passed.length⟩ kind w₁
        = (.failed (.scenarioFailed kind.name cause), w'))
      (later : List ScenarioKind) :
      Goes s timing chances w (passed.map Prod.fst ++ kind :: later) passed
        (.done ⟨told passed ++ [.started kind,
            .failed kind (.scenarioFailed kind.name cause)],
          .error (.scenarioFailed kind.name cause)⟩) w'
  /-- Some pass and the next one waits for what never comes. -/
  | waits {passed : List (ScenarioKind × Nat)} {kind : ScenarioKind}
      {w₁ w' : World} (hpasses : Passes s timing chances w passed w₁)
      (hrun : Scenario.run ⟨s, timing, chances passed.length⟩ kind w₁
        = (.stalled, w'))
      (later : List ScenarioKind) :
      Goes s timing chances w (passed.map Prod.fst ++ kind :: later) passed
        .stalled w'

/-- The service is there for the scenarios: with these settings in
effect, launched as this process where there is a command to launch it,
and stopped on the host when they are over. -/
inductive Serves (p : Plan) (m : Machine) :
    Settings → Option Pid → Machine → Prop where
  | running {s : Settings} (heffective : p.effective = .ok s)
      (hcommand : s.launchesService = false) : Serves p m s none m
  | launched {s : Settings} {pid : Pid} {supervisor : Supervisor}
      {m₁ : Machine} (heffective : p.effective = .ok s)
      (hcommand : s.launchesService = true)
      (hstart : (Supervisor.idle p.startupGrace
          Supervisor.defaultReapTimeout).start m s p.overrides
        = (.ok pid, supervisor, m₁)) :
      Serves p m s (some pid) (supervisor.stop m₁).2

/-- The service could not be started, for this reason. -/
def Unstarted (p : Plan) (m : Machine) (s : Settings) (e : Failure)
    (m' : Machine) : Prop :=
  s.launchesService = true
    ∧ ∃ supervisor, (Supervisor.idle p.startupGrace
        Supervisor.defaultReapTimeout).start m s p.overrides
      = (.error e, supervisor, m')

-- ================================================== one scenario first

/-- An account behind scenarios that passed. -/
def behind (passed : List (ScenarioKind × Nat))
    (a : Account (List (ScenarioKind × Nat))) :
    Account (List (ScenarioKind × Nat)) :=
  ⟨told passed ++ a.progress, a.result.map (passed ++ ·)⟩

/-- Behind no scenario at all an account stays as it is. -/
theorem behind_nil (a : Account (List (ScenarioKind × Nat))) :
    behind [] a = a := by
  obtain ⟨progress, result⟩ := a
  cases result <;> rfl

/-- Scenarios that passed are told one by one or all together, with the same
account. -/
theorem behind_cons (x : ScenarioKind × Nat)
    (a : Account (List (ScenarioKind × Nat))) :
    behind [x] (behind passed a) = behind (x :: passed) a := by
  obtain ⟨progress, result⟩ := a
  cases result <;> simp [behind, told, Except.map]

/-- A scenario that passes hands on to the rest. -/
theorem runScenarios_passing {rest : List ScenarioKind}
    (hrun : Scenario.run ⟨s, timing, chances 0⟩ kind w = (.done (), w₁))
    (hrest : runScenarios s timing (fun i => chances (i + 1)) rest w₁
      = (o, w')) :
    runScenarios s timing chances (kind :: rest) w
      = (o.map (behind [(kind, w₁.paused - w.paused)]), w') := by
  unfold runScenarios
  rw [Run.get_bind, Run.bind_done (Run.attempt_done hrun)]
  show (Run.get >>= _) w₁ = _
  rw [Run.get_bind]
  cases o with
  | done a =>
      rw [Run.bind_done hrest]
      rfl
  | failed e =>
      rw [Run.bind_failed hrest]
      rfl
  | stalled =>
      rw [Run.bind_stalled hrest]
      rfl

/-- One that fails is the last. -/
theorem runScenarios_failing {e : Failure}
    (hrun : Scenario.run ⟨s, timing, chances 0⟩ kind w = (.failed e, w'))
    (later : List ScenarioKind) :
    runScenarios s timing chances (kind :: later) w
      = (.done ⟨[.started kind, .failed kind e], .error e⟩, w') := by
  unfold runScenarios
  rw [Run.get_bind, Run.bind_done (Run.attempt_failed hrun)]
  rfl

/-- So is one that waits for ever. -/
theorem runScenarios_waiting
    (hrun : Scenario.run ⟨s, timing, chances 0⟩ kind w = (.stalled, w'))
    (later : List ScenarioKind) :
    runScenarios s timing chances (kind :: later) w = (.stalled, w') := by
  unfold runScenarios
  rw [Run.get_bind, Run.bind_stalled (Run.attempt_stalled hrun)]

-- ========================================================= whole lists

/-- Scenarios that pass come before the account of the rest, which is run
in the world that they leave and with the chances that they leave. -/
theorem runScenarios_of_passes {rest : List ScenarioKind}
    (h : Passes s timing chances w passed w₁)
    (hrest : runScenarios s timing (fun i => chances (i + passed.length))
      rest w₁ = (o, w')) :
    runScenarios s timing chances (passed.map Prod.fst ++ rest) w
      = (o.map (behind passed), w') := by
  induction h with
  | none chances w =>
      have hid : o.map (behind []) = o := by
        cases o with
        | done a => exact congrArg Outcome.done (behind_nil a)
        | failed e => rfl
        | stalled => rfl
      rw [hid]
      exact hrest
  | @more _ _ w₁ _ kind passed hrun _ ih =>
      have hmap : ∀ x, (o.map (behind passed)).map (behind [x])
          = o.map (behind (x :: passed)) := by
        intro x
        cases o with
        | done a => exact congrArg Outcome.done (behind_cons x a)
        | failed e => rfl
        | stalled => rfl
      rw [← hmap]
      exact runScenarios_passing hrun (ih hrest)

/-- What a list comes to is what comes of running it. -/
theorem runScenarios_of_goes
    (h : Goes s timing chances w kinds passed o w') :
    runScenarios s timing chances kinds w = (o, w') := by
  cases h with
  | ends hpasses =>
      have hnil : runScenarios s timing
          (fun i => chances (i + passed.length)) [] w'
          = (.done ⟨[], .ok []⟩, w') := rfl
      have hall := runScenarios_of_passes hpasses hnil
      rw [List.append_nil] at hall
      rw [hall]
      simp [Outcome.map, behind, Except.map]
  | fails hpasses hrun later =>
      rw [runScenarios_of_passes hpasses
        (runScenarios_failing (by simpa using hrun) later)]
      rfl
  | waits hpasses hrun later =>
      rw [runScenarios_of_passes hpasses
        (runScenarios_waiting (by simpa using hrun) later)]
      rfl

/-- A scenario that passes goes before what the rest comes to. -/
theorem Goes.more {rest : List ScenarioKind}
    (hrun : Scenario.run ⟨s, timing, chances 0⟩ kind w = (.done (), w₁))
    (h : Goes s timing (fun i => chances (i + 1)) w₁ rest passed o w') :
    ∃ o', Goes s timing chances w (kind :: rest)
      ((kind, w₁.paused - w.paused) :: passed) o' w' := by
  cases h with
  | ends hpasses => exact ⟨_, .ends (.more hrun hpasses)⟩
  | fails hpasses hnext later =>
      exact ⟨_, .fails (.more hrun hpasses) hnext later⟩
  | waits hpasses hnext later =>
      exact ⟨_, .waits (.more hrun hpasses) hnext later⟩

/-- Every list comes to something. -/
theorem exists_goes (s : Settings) (timing : Timing)
    (chances : Nat → Chance) (kinds : List ScenarioKind) (w : World) :
    ∃ passed o w', Goes s timing chances w kinds passed o w' := by
  induction kinds generalizing chances w with
  | nil => exact ⟨[], _, w, .ends (.none chances w)⟩
  | cons kind rest ih =>
      cases hrun : Scenario.run ⟨s, timing, chances 0⟩ kind w with
      | mk o w₁ =>
          cases o with
          | done u =>
              obtain ⟨passed, o, w', hrest⟩ := ih (fun i => chances (i + 1)) w₁
              obtain ⟨o', hgoes⟩ := Goes.more hrun hrest
              exact ⟨_, o', w', hgoes⟩
          | failed e =>
              obtain ⟨cause, rfl, -⟩ := Scenario.run_eq_failed hrun
              exact ⟨[], _, w₁, .fails (.none chances w) hrun rest⟩
          | stalled =>
              exact ⟨[], _, w₁, .waits (.none chances w) hrun rest⟩

-- ================================================= the longest start

/-- Where more scenarios of the same kinds pass from a world, the further
ones pass after those. -/
theorem Passes.further (h : Passes s timing chances w passed w₁)
    (hother : Passes s timing chances w other w₂)
    (hstart : passed.map Prod.fst <+: other.map Prod.fst) :
    ∃ rest, other = passed ++ rest
      ∧ Passes s timing (fun i => chances (i + passed.length)) w₁ rest
        w₂ := by
  induction h generalizing other with
  | none chances w => exact ⟨other, rfl, hother⟩
  | more hrun hrest ih =>
      cases hother with
      | none => simp at hstart
      | more hrun' hrest' =>
          obtain ⟨hkind, htail⟩ := List.cons_prefix_cons.1 hstart
          cases hkind
          rw [hrun] at hrun'
          cases hrun'
          obtain ⟨rest, rfl, hpasses⟩ := ih hrest' htail
          exact ⟨rest, rfl, hpasses⟩

/-- What passes of a list is its longest start that does. -/
theorem Goes.longest (h : Goes s timing chances w kinds passed o w')
    (hother : Passes s timing chances w other w₂)
    (hstart : other.map Prod.fst <+: kinds) : other <+: passed := by
  -- a longer one would begin with what does not pass
  have hnext : ∀ {kind later w₁ o}, Passes s timing chances w passed w₁ →
      kinds = passed.map Prod.fst ++ kind :: later →
      Scenario.run ⟨s, timing, chances passed.length⟩ kind w₁ = (o, w') →
      o ≠ .done () → other <+: passed := by
    intro kind later w₁ o hpasses hkinds hrun hne
    rcases List.prefix_or_prefix_of_prefix hstart
      (hkinds ▸ List.prefix_append _ _) with hle | hle
    · obtain ⟨rest, rfl, -⟩ := hother.further hpasses hle
      exact List.prefix_append _ _
    -- here the other start is the longer one, so it runs the scenario that
    -- ended this list, and there it cannot pass
    · obtain ⟨rest, rfl, hrest⟩ := hpasses.further hother hle
      cases hrest with
      | none => simp
      | more hrun' _ =>
          rw [hkinds, List.map_append, List.prefix_append_right_inj,
            List.map_cons] at hstart
          obtain ⟨hkind, -⟩ := List.cons_prefix_cons.1 hstart
          simp only [Nat.zero_add] at hrun'
          cases hkind
          rw [hrun] at hrun'
          cases hrun'
          exact absurd rfl hne
  cases h with
  | ends hpasses =>
      obtain ⟨rest, rfl, -⟩ := hother.further hpasses hstart
      exact List.prefix_append _ _
  | fails hpasses hrun later =>
      exact hnext hpasses rfl hrun (by simp)
  | waits hpasses hrun later =>
      exact hnext hpasses rfl hrun (by simp)

/-- A list that passes as a whole is what passes of it. -/
theorem Goes.all_of_passes (h : Goes s timing chances w kinds passed o w')
    (hother : Passes s timing chances w other w₂)
    (hall : other.map Prod.fst = kinds) : passed.map Prod.fst = kinds := by
  have hstart : passed.map Prod.fst <+: kinds := by
    cases h with
    | ends hpasses => exact List.prefix_rfl
    | fails hpasses hrun later => exact List.prefix_append _ _
    | waits hpasses hrun later => exact List.prefix_append _ _
  have hlong : other.map Prod.fst <+: passed.map Prod.fst :=
    (h.longest hother (hall ▸ List.prefix_rfl)).map Prod.fst
  rw [hall] at hlong
  exact hstart.eq_of_length_le hlong.length_le

-- ============================================================ the run

/-- The service is there or could not be started. -/
theorem serves_or_unstarted (h : p.effective = .ok s) (m : Machine) :
    (∃ service m', Serves p m s service m')
      ∨ ∃ e m', Unstarted p m s e m' := by
  by_cases hcommand : s.launchesService = true
  · cases hstart : (Supervisor.idle p.startupGrace
        Supervisor.defaultReapTimeout).start m s p.overrides with
    | mk started rest =>
        obtain ⟨supervisor, m'⟩ := rest
        cases started with
        | ok pid => exact .inl ⟨_, _, .launched h hcommand hstart⟩
        | error e => exact .inr ⟨e, m', hcommand, supervisor, hstart⟩
  · exact .inl ⟨_, _, .running h (by simpa using hcommand)⟩

/-- A service that is there was not refused: the two ways in which a run can
begin exclude each other. -/
theorem Serves.not_unstarted {e : Failure} {m₁ : Machine}
    (h : Serves p m s service m') : ¬Unstarted p m s e m₁ := by
  rintro ⟨hcommand, supervisor, hstart⟩
  cases h with
  | running heffective hnone =>
      rw [hcommand] at hnone
      cases hnone
  | launched heffective _ hstarted =>
      rw [hstart] at hstarted
      cases hstarted

/-- Where the service could not be started, the run ends in the reason,
and no scenario is run. -/
theorem run_of_unstarted {e : Failure} (heffective : p.effective = .ok s)
    (h : Unstarted p m s e m') (chances : Nat → Chance)
    (kinds : List ScenarioKind) (w : World) :
    run p chances kinds w m = (.done ⟨[], .error e⟩, w, m') := by
  obtain ⟨hcommand, supervisor, hstart⟩ := h
  unfold run
  rw [heffective]
  simp only [hcommand, hstart]
  rfl

/-- Where the service is there, a run is that of its scenarios, told with
the service and the time that it all took. -/
theorem run_of_serves (hserves : Serves p m s service m')
    (hrun : runScenarios s p.timing chances kinds w = (o, w')) :
    ∃ elapsed, run p chances kinds w m
      = (o.map (summarized service elapsed), w', m') := by
  cases hserves with
  | running heffective hcommand =>
      refine ⟨w'.paused - w.paused, ?_⟩
      unfold run
      rw [heffective]
      simp only [hcommand, hrun]
      rfl
  | @launched pid supervisor m₁ heffective hcommand hstart =>
      refine ⟨((supervisor.stop m₁).2.slept - m.slept)
        + (w'.paused - w.paused), ?_⟩
      unfold run
      rw [heffective]
      simp only [hcommand, hstart, hrun]
      rfl

/-- A run whose service is there tells of the scenarios from the front:
of each that passes that it was started and passed, up to the longest
start of the list that passes, and if this is not the whole list, of the
next one that it was started and failed, and of no other. That failure
names its scenario and is what the run ends in; the world is left as that
scenario left it. The run ends in a summary exactly when the whole list
passes, and the summary names the list. -/
theorem run_reports (hserves : Serves p m s service m')
    (chances : Nat → Chance) (kinds : List ScenarioKind) (w : World) :
    ∃ passed o w', Goes s p.timing chances w kinds passed o w'
      ∧ (∀ other w₂, Passes s p.timing chances w other w₂ →
          other.map Prod.fst <+: kinds → other <+: passed)
      ∧ (∃ elapsed, run p chances kinds w m
          = (o.map (summarized service elapsed), w', m'))
      ∧ ((∃ progress summary, (run p chances kinds w m).1
            = .done ⟨progress, .ok summary⟩)
          ↔ passed.map Prod.fst = kinds) := by
  obtain ⟨passed, o, w', hgoes⟩ :=
    exists_goes s p.timing chances kinds w
  obtain ⟨elapsed, hrun⟩ :=
    run_of_serves hserves (runScenarios_of_goes hgoes)
  refine ⟨passed, o, w', hgoes, fun other w₂ hother hstart =>
    hgoes.longest hother hstart, ⟨elapsed, hrun⟩, ?_⟩
  rw [hrun]
  -- only a list that ended with all passed gives a summary
  constructor
  · rintro ⟨progress, summary, hdone⟩
    cases hgoes with
    | ends hpasses => rfl
    | fails hpasses hnext later => cases hdone
    | waits hpasses hnext later => cases hdone
  · intro hall
    cases hgoes with
    | ends hpasses => exact ⟨_, _, rfl⟩
    | fails hpasses hnext later => simp at hall
    | waits hpasses hnext later => simp at hall

/-- Whether an act opens a connection. -/
def isOpening : Act → Bool
  | .opened _ => true
  | _ => false

/-- The service that relays once, and takes no third connection. -/
def relayingOncePair : Service :=
  { Scenario.relayingOnce with
    answer := fun past _ =>
      some (if past.countP isOpening < 2 then .accepted else .status 503) }

/-- Programs that run on and do nothing else. -/
def idling : Programs where
  refuse _ _ := none
  changes _ := []

/-- A plan for a service that relays once. -/
def oncePlan : Plan :=
  .ofSettings { Settings.defaults with maxExchanges := "1" }

/-- Whether a run ended and this is what was told. -/
def tells (o : Outcome (Account Summary)) (progress : List Progress) : Bool :=
  match o with
  | .done a => decide (a.progress = progress)
  | _ => false

/-- The first scenario passes, the second is refused its connection and
fails, and the third is not run. -/
theorem run_reports_refused :
    ∃ e w' m', Goes oncePlan.settings .defaults
        (fun _ => Scenario.oneExchange.chance)
        (World.start relayingOncePair)
        [.maxExchange, .simpleRelay, .badChannel] [(.maxExchange, 0)]
        (.done ⟨[.started .maxExchange, .passed .maxExchange 0,
          .started .simpleRelay, .failed .simpleRelay e], .error e⟩) w'
      ∧ run oncePlan (fun _ => Scenario.oneExchange.chance)
          [.maxExchange, .simpleRelay, .badChannel]
          (World.start relayingOncePair) (Machine.start idling)
        = (.done ⟨[.started .maxExchange, .passed .maxExchange 0,
          .started .simpleRelay, .failed .simpleRelay e], .error e⟩, w', m')
      ∧ e = .scenarioFailed "simple_relay" (.refused 503) := by
  obtain ⟨m', hserves⟩ : ∃ m', Serves oncePlan (Machine.start idling)
      oncePlan.settings (some 3) m' := ⟨_, .launched rfl rfl rfl⟩
  -- the run is evaluated once, and only for what it tells
  have htells : tells (run oncePlan (fun _ => Scenario.oneExchange.chance)
      [.maxExchange, .simpleRelay, .badChannel]
      (World.start relayingOncePair) (Machine.start idling)).1
      [.started .maxExchange, .passed .maxExchange 0,
        .started .simpleRelay, .failed .simpleRelay
          (.scenarioFailed "simple_relay" (.refused 503))] = true := by
    decide +kernel
  obtain ⟨passed, o, w', hgoes, -, ⟨elapsed, hrun⟩, -⟩ :=
    run_reports hserves (fun _ => Scenario.oneExchange.chance)
      [.maxExchange, .simpleRelay, .badChannel]
      (World.start relayingOncePair)
  rw [hrun] at htells ⊢
  generalize hkinds : [ScenarioKind.maxExchange, .simpleRelay, .badChannel]
    = kinds at hgoes
  -- of the three ways the list can end only a failure at the second scenario
  -- agrees with what is told
  cases hgoes with
  | ends hpasses =>
      have hprogress := of_decide_eq_true htells
      rcases passed with _ | ⟨x, _ | ⟨y, rest⟩⟩ <;>
        simp [told, summarized] at hprogress hkinds
  | fails hpasses hnext later =>
      have hprogress := of_decide_eq_true htells
      rcases passed with _ | ⟨⟨first, spent⟩, _ | ⟨y, rest⟩⟩
      · simp [told, summarized] at hprogress
      · simp only [told, summarized, List.flatMap_cons, List.flatMap_nil,
          List.cons_append, List.nil_append, List.cons.injEq,
          Progress.started.injEq, Progress.passed.injEq,
          Progress.failed.injEq, Failure.scenarioFailed.injEq] at hprogress
        obtain ⟨rfl, ⟨-, rfl⟩, rfl, ⟨-, -, rfl⟩, -⟩ := hprogress
        obtain rfl : [.badChannel] = later := by simpa using hkinds
        exact ⟨_, w', m', .fails hpasses hnext _, rfl, rfl⟩
      · simp [told, summarized] at hprogress
  | waits hpasses hnext later => cases htells

end PairingHarness.Conformance
