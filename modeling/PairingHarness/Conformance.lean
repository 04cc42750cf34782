/-
Conformance runs.

A run takes a list of scenarios against one instance of the service. The
overrides are laid over the settings first; then the service is launched, if
the settings name a command; then the scenarios run in order until one
fails; at last the service is stopped, whether they passed or not. What an
observer is told while the run goes on is part of its account.
-/
import PairingHarness.Scenario.Run
import PairingHarness.Supervisor

namespace PairingHarness

open Host Network

namespace Conformance

-- ================================================================== plan

/-- What a run is made with. -/
structure Plan where
  settings : Settings
  /-- Laid over the settings, for the service and the scenarios alike. -/
  overrides : Overrides
  timing : Timing
  /-- How long the service must live to count as started, in milliseconds. -/
  startupGrace : Nat

/-- A plan in which nothing but the settings is given. -/
def Plan.ofSettings (s : Settings) : Plan :=
  ⟨s, .empty, .defaults, Supervisor.defaultStartupGrace⟩

/-- The settings with the overrides laid over them (`effective_config`). -/
def Plan.effective (p : Plan) : Except Failure Settings :=
  p.settings.withOverrides p.overrides

-- =============================================================== account

/-- What an observer is told: `scenario_started`, `scenario_passed` and
`scenario_failed`. -/
inductive Progress where
  | started (kind : ScenarioKind)
  /-- Passed, and how many milliseconds were spent in pauses. -/
  | passed (kind : ScenarioKind) (elapsed : Nat)
  /-- Failed; nothing is told after this. -/
  | failed (kind : ScenarioKind) (failure : Failure)
  deriving DecidableEq, Repr

/-- What came of a run in which every scenario passed. -/
structure Summary where
  /-- The scenarios in their order, with the milliseconds spent in pauses. -/
  passed : List (ScenarioKind × Nat)
  service : Option Pid
  /-- The milliseconds that the whole run took, the start of the service
  included. -/
  elapsed : Nat
  deriving DecidableEq, Repr

/-- What an observer was told, and what came of it. -/
structure Account (α : Type) where
  progress : List Progress
  result : Except Failure α

/-- Puts what was told before in front. -/
def Account.after {α : Type} (earlier : List Progress) (a : Account α) :
    Account α :=
  { a with progress := earlier ++ a.progress }

-- ============================================================= scenarios

/-- Runs scenarios in order until one fails (`run_scenarios`). The first of
them draws the first chance, the next one the next. -/
def runScenarios (s : Settings) (timing : Timing) :
    (chances : Nat → Chance) → List ScenarioKind →
      Run (Account (List (ScenarioKind × Nat)))
  | _, [] => return ⟨[], .ok []⟩
  | chances, kind :: rest => do
    let before := (← Run.get).paused
    match ← (Scenario.run ⟨s, timing, chances 0⟩ kind).attempt with
    | .error e => return ⟨[.started kind, .failed kind e], .error e⟩
    | .ok () =>
      let elapsed := (← Run.get).paused - before
      let later ← runScenarios s timing (fun i => chances (i + 1)) rest
      return .after [.started kind, .passed kind elapsed]
        { later with result := later.result.map ((kind, elapsed) :: ·) }

-- =================================================================== run

/-- The account of a run, from that of its scenarios. -/
def summarized (service : Option Pid) (elapsed : Nat)
    (a : Account (List (ScenarioKind × Nat))) : Account Summary :=
  ⟨a.progress, a.result.map fun passed => ⟨passed, service, elapsed⟩⟩

/-- A run from the launch of the service to its end. -/
def run (p : Plan) (chances : Nat → Chance) (kinds : List ScenarioKind)
    (w : World) (m : Machine) :
    Outcome (Account Summary) × World × Machine :=
  match p.effective with
  | .error e => (.done ⟨[], .error e⟩, w, m)
  | .ok s =>
    if s.launchesService then
      let supervisor :=
        Supervisor.idle p.startupGrace Supervisor.defaultReapTimeout
      match supervisor.start m s p.overrides with
      | (.error e, _, started) => (.done ⟨[], .error e⟩, w, started)
      | (.ok pid, supervisor, started) =>
        let (outcome, after) := runScenarios s p.timing chances kinds w
        let stopped := (supervisor.stop started).2
        let elapsed := (stopped.slept - m.slept) + (after.paused - w.paused)
        (outcome.map (summarized (some pid) elapsed), after, stopped)
    else
      let (outcome, after) := runScenarios s p.timing chances kinds w
      (outcome.map (summarized none (after.paused - w.paused)), after, m)

end Conformance

end PairingHarness
