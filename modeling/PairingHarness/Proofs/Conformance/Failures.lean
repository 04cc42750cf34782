/-
What a run fails with, and what it leaves when its service is not there.

A scenario fails with its name around a cause of its own, so once and no
more, and the causes are few (`Scenario.FailsClosed`). A run fails before
it launches anything, with an override that names no option; or with the
reason for which its service could not be started; or with the failure of
one of its scenarios (`fails_closed`). In the second case what the service
leaves behind is what a failed start leaves (`failed_launch_clears_iff`).

The causes of a scenario are collected in `Scenario.Causes`, one lemma
for each kind. Here they are put under the name of the scenario and
beside the two failures that a run has of its own (`run` of the
harness). What a failed launch leaves running is not a matter of the
scenarios, which are never begun then: it follows from the supervisor's
start alone.
-/
import PairingHarness.Proofs.Conformance
import PairingHarness.Proofs.Scenario.Causes
import PairingHarness.Proofs.Settings.Overrides
import PairingHarness.Proofs.Supervisor.Teardown

namespace PairingHarness

open Host Network

-- ====================================================== one scenario alone

namespace Scenario

/-- How a scenario fails and what it opens. -/
structure FailsClosed (c : Conditions) (kind : ScenarioKind) (w : World) :
    Prop where
  /-- A failure names the scenario around a cause of these kinds, which is
  an option exactly where the limit that it reads cannot be used. -/
  wrapped : ∀ e w', run c kind w = (.failed e, w') →
    ∃ cause, e = .scenarioFailed kind.name cause ∧ isCause cause = true
      ∧ (isInvalidOption cause = true ↔ LimitInvalid c.settings kind)
  /-- With such a limit it fails before it does anything. -/
  invalid : LimitInvalid c.settings kind →
    ∃ cause, run c kind w = (.failed (.scenarioFailed kind.name cause), w)
      ∧ isInvalidOption cause = true
  /-- However it ends, it opens two connections at most. -/
  opens : Opens 2 w (run c kind w).2
  /-- It opens the second once the first one has its handshake. -/
  inTurn : OpensInTurn w (run c kind w).2

/-- Naming a failure after its scenario changes nothing in the world. -/
theorem run_snd (c : Conditions) (kind : ScenarioKind) (w : World) :
    (run c kind w).2 = (play c kind w).2 := by
  unfold run Run.mapFailure
  generalize play c kind w = played
  obtain ⟨o, w'⟩ := played
  cases o <;> rfl

/-- A scenario fails with one wrap, its own name on it, and what is wrapped
is a cause that a scenario can have. -/
theorem run_failsClosed (c : Conditions) (kind : ScenarioKind) (w : World) :
    FailsClosed c kind w where
  wrapped := fun e w' h => by
    obtain ⟨cause, rfl, hplay⟩ := run_eq_failed h
    obtain ⟨hcause, hinvalid⟩ := cause_of_play hplay
    exact ⟨cause, rfl, hcause, hinvalid⟩
  invalid := fun h => by
    obtain ⟨cause, hplay, hkind⟩ := play_of_invalid h w
    refine ⟨cause, ?_, hkind⟩
    unfold run Run.mapFailure
    rw [hplay]
  opens := (run_snd c kind w).symm ▸ (opensInTurn_of_play c kind w).opens
  inTurn := (run_snd c kind w).symm ▸ opensInTurn_of_play c kind w

end Scenario

/-- Overrides fail for one reason only: one of them names no option. -/
theorem Settings.error_withOverrides {s : Settings} {overrides : Overrides}
    {e : Failure} (h : s.withOverrides overrides = .error e) :
    ∃ name, e = .unknownOption name := by
  by_cases hnamed : ∀ x ∈ overrides.entries,
      ∃ o : OptionName, Text.lower x.1 = o.name
  · obtain ⟨s', hs'⟩ := exists_foldlM_setOverride hnamed s
    have hok : s.withOverrides overrides = .ok s' := hs'
    rw [h] at hok
    cases hok
  · obtain ⟨x, hmem, hunnamed, hleast⟩ := exists_least_unnamed hnamed
    rw [withOverrides_of_least hmem hunnamed hleast] at h
    cases h
    exact ⟨_, rfl⟩

/-- A supervisor that owns nothing fails to start for its own reason. -/
theorem Supervisor.startup_of_idle {s s' : Supervisor} {m m' : Machine}
    (hidle : s.process = none) {e : Failure}
    (h : Supervisor.Starts s m (.error e) s' m') :
    ∃ reason, e = .startup reason := by
  cases h with
  | rejected howned => simp [hidle] at howned
  | _ => exact ⟨_, rfl⟩

namespace Conformance

variable {p : Plan} {s : Settings} {chances : Nat → Chance}
  {kinds : List ScenarioKind} {w w' : World} {m m' : Machine}

-- ============================================================= whole runs

/-- What a run can fail with. -/
inductive Fails (p : Plan) (kinds : List ScenarioKind) (m : Machine) :
    Failure → Machine → Prop
  /-- An override names no option. -/
  | unknown (name : String) : Fails p kinds m (.unknownOption name) m
  /-- The service could not be started. -/
  | unstarted {s : Settings} {reason : String} {m' : Machine}
      (h : Unstarted p m s (.startup reason) m') :
      Fails p kinds m (.startup reason) m'
  /-- One of the scenarios failed. -/
  | scenario {kind : ScenarioKind} {cause : Failure} {m' : Machine}
      (hkind : kind ∈ kinds) (hcause : Scenario.isCause cause = true) :
      Fails p kinds m (.scenarioFailed kind.name cause) m'

/-- That the service could not be started is what a start of the supervisor
came to, with nothing before it. -/
theorem starts_of_unstarted {e : Failure} (h : Unstarted p m s e m') :
    ∃ supervisor, Supervisor.Starts (Supervisor.idle p.startupGrace
      Supervisor.defaultReapTimeout) m (.error e) supervisor m' := by
  obtain ⟨-, supervisor, hstart⟩ := h
  have hstarts := Supervisor.starts_start (Supervisor.idle p.startupGrace
    Supervisor.defaultReapTimeout) m s p.overrides
  rw [hstart] at hstarts
  exact ⟨supervisor, hstarts⟩

/-- A run does not break off, and if it ends in a failure it is one of
these. -/
theorem run_fails {o : Outcome (Account Summary)}
    (h : run p chances kinds w m = (o, w', m')) :
    (∀ e, o ≠ .failed e)
      ∧ ∀ progress e, o = .done ⟨progress, .error e⟩ →
        Fails p kinds m e m' := by
  -- the three places a run can fail at, in their order: an option with no
  -- such name, the service, a scenario
  cases heffective : p.effective with
  | error e =>
      obtain ⟨name, rfl⟩ := Settings.error_withOverrides heffective
      unfold run at h
      rw [heffective] at h
      cases h
      refine ⟨fun _ he => (by cases he), fun _ _ he => ?_⟩
      cases he
      exact .unknown name
  | ok s =>
      rcases serves_or_unstarted heffective m with
        ⟨service, m₁, hserves⟩ | ⟨e, m₁, hunstarted⟩
      · obtain ⟨passed, ran, w₁, hgoes⟩ :=
          exists_goes s p.timing chances kinds w
        obtain ⟨elapsed, hrun⟩ :=
          run_of_serves hserves (runScenarios_of_goes hgoes)
        rw [hrun] at h
        cases h
        refine ⟨fun e he => ?_, fun progress e he => ?_⟩
        · cases hgoes <;> cases he
        · cases hgoes with
          | ends hpasses => cases he
          | @fails _ kind cause w₂ _ hpasses hnext later =>
              cases he
              obtain ⟨cause', heq, hcause, -⟩ :=
                (Scenario.run_failsClosed _ _ _).wrapped _ _ hnext
              cases heq
              exact .scenario (by simp) hcause
          | waits hpasses hnext later => cases he
      · rw [run_of_unstarted heffective hunstarted] at h
        cases h
        refine ⟨fun _ he => (by cases he), fun _ _ he => ?_⟩
        cases he
        obtain ⟨supervisor, hstarts⟩ := starts_of_unstarted hunstarted
        obtain ⟨reason, rfl⟩ := Supervisor.startup_of_idle rfl hstarts
        exact .unstarted hunstarted

/-- Failures come from few causes and are wrapped once: a scenario's by
its name, and only where its limit cannot be used before it opened
anything; a run's are an unknown option, a service that could not be
started, or such a scenario of its list. -/
theorem fails_closed (c : Conditions) (kind : ScenarioKind)
    (w : World) :
    Scenario.FailsClosed c kind w
      ∧ ∀ (p : Plan) (chances : Nat → Chance) (kinds : List ScenarioKind)
          (w : World) (m : Machine),
        (∀ e, (run p chances kinds w m).1 ≠ .failed e)
          ∧ ∀ progress e,
            (run p chances kinds w m).1 = .done ⟨progress, .error e⟩ →
            Fails p kinds m e (run p chances kinds w m).2.2 :=
  ⟨Scenario.run_failsClosed c kind w, fun _ _ _ _ _ => run_fails rfl⟩

/-- A limit of nothing. -/
def nothingAllowed : Conditions :=
  { Scenario.oneExchange with
    settings := { Settings.defaults with maxData := "0" } }

/-- With that limit the scenario that needs it fails in the world as it
is, and so does a run that comes to it. -/
theorem fails_on_nothing_allowed :
    Scenario.LimitInvalid nothingAllowed.settings .maxData
      ∧ (∃ cause, Scenario.run nothingAllowed .maxData
            (World.start relayingOncePair)
          = (.failed (.scenarioFailed "max_data" cause),
              World.start relayingOncePair)
        ∧ Scenario.isInvalidOption cause = true)
      ∧ ∃ progress e w' m', run (.ofSettings nothingAllowed.settings)
            (fun _ => nothingAllowed.chance) [.maxData]
            (World.start relayingOncePair) (Machine.start idling)
          = (.done ⟨progress, .error e⟩, w', m')
        ∧ Fails (.ofSettings nothingAllowed.settings) [.maxData]
            (Machine.start idling) e m' := by
  have hlimit : Scenario.LimitInvalid nothingAllowed.settings .maxData :=
    .data rfl
  obtain ⟨hscenario, hruns⟩ := fails_closed nothingAllowed .maxData
    (World.start relayingOncePair)
  obtain ⟨progress, e, w', m', hrun⟩ : ∃ progress e w' m',
      run (.ofSettings nothingAllowed.settings)
        (fun _ => nothingAllowed.chance) [.maxData]
        (World.start relayingOncePair) (Machine.start idling)
      = (.done ⟨progress, .error e⟩, w', m') := ⟨_, _, _, _, rfl⟩
  -- that the run fails so is evaluated; why it may is the general fact
  have hfails := (hruns (.ofSettings nothingAllowed.settings)
    (fun _ => nothingAllowed.chance) [.maxData]
    (World.start relayingOncePair) (Machine.start idling)).2 progress e
  rw [hrun] at hfails
  exact ⟨hlimit, hscenario.invalid hlimit, progress, e, w', m', hrun,
    hfails rfl⟩

-- ====================================================== a failed launch

/-- Between two states of a host a launch failed: a supervisor that any
operations left there was started and the start failed with its reason,
or a run ended in the reason for which its service could not be
started. -/
inductive LaunchFailed (m m' : Machine) : Prop where
  | start {programs : Programs} {startupGrace reapTimeout : Nat}
      {ops : List Supervisor.Operation} {s s' : Supervisor}
      {settings : Settings} {overrides : Overrides} {reason : String}
      (hafter : Supervisor.after programs startupGrace reapTimeout ops
        = (s, m))
      (hstart : s.start m settings overrides
        = (.error (.startup reason), s', m')) : LaunchFailed m m'
  | run {p : Plan} {chances : Nat → Chance} {kinds : List ScenarioKind}
      {w w' : World} {progress : List Progress} {reason : String}
      (hm : m.IsGenuine)
      (hrun : Conformance.run p chances kinds w m
        = (.done ⟨progress, .error (.startup reason)⟩, w', m')) :
      LaunchFailed m m'

/-- Where a launch fails, nothing runs that belongs to what was launched
just where all that descends from it ended by itself. -/
theorem failed_launch_clears_iff (h : LaunchFailed m m')
    (hslays : m.Slays m') : m.Cleared m' ↔ m.Expired m' := by
  cases h with
  | @start programs startupGrace reapTimeout ops s s' settings overrides
      reason hafter hstart =>
      have htracks :=
        Supervisor.tracks_after programs startupGrace reapTimeout ops
      rw [hafter] at htracks
      have hstarts := Supervisor.starts_start s m settings overrides
      rw [hstart] at hstarts
      exact Supervisor.cleared_iff_of_failed htracks.genuine hstarts hslays
  | run hm hrun =>
      cases (run_fails hrun).2 _ _ rfl with
      | unstarted hunstarted =>
          obtain ⟨supervisor, hstarts⟩ := starts_of_unstarted hunstarted
          exact Supervisor.cleared_iff_of_failed hm hstarts hslays

open Supervisor (deserting served) in
/-- So it is with a shell that has a child work in the background and ends
in its grace. -/
theorem failed_launch_deserting :
    ∃ m', LaunchFailed (Machine.start (deserting 1)) m'
      ∧ (Machine.start (deserting 1)).Slays m'
      ∧ ((Machine.start (deserting 1)).Cleared m'
        ↔ (Machine.start (deserting 1)).Expired m') := by
  obtain ⟨reason, s', m', hstart⟩ : ∃ reason s' m',
      (Supervisor.idle 250 2000).start (Machine.start (deserting 1)) served
        .empty = (.error (.startup reason), s', m') := ⟨_, _, _, rfl⟩
  have hafter : Supervisor.after (deserting 1) 250 2000 []
      = (Supervisor.idle 250 2000, Machine.start (deserting 1)) := rfl
  have hfailed : LaunchFailed (Machine.start (deserting 1)) m' :=
    .start hafter hstart
  have hslays : (Machine.start (deserting 1)).Slays m' := by
    cases hstart
    exact Supervisor.slays_of_deeds
      [.reaped 3, .slept 250, .launched 3 ⟨_, _⟩] rfl (by decide +kernel)
  exact ⟨m', hfailed, hslays, failed_launch_clears_iff hfailed hslays⟩

open Supervisor (deserting served) in
/-- A run with such a shell ends before its scenarios begin, and the child
runs on. -/
theorem not_cleared_deserting :
    ∃ reason w' m', run (.ofSettings served)
        (fun _ => Scenario.oneExchange.chance) [.simpleRelay]
        (World.start relayingOncePair) (Machine.start (deserting 1))
        = (.done ⟨[], .error (.startup reason)⟩, w', m')
      ∧ (Machine.start (deserting 1)).Slays m'
      ∧ ¬(Machine.start (deserting 1)).Cleared m' := by
  refine ⟨_, _, _, rfl, ?_, fun hclear => ?_⟩
  · exact Supervisor.slays_of_deeds
      [.reaped 3, .slept 250, .launched 3 ⟨_, _⟩] rfl
      (by decide +kernel)
  · have hdead := hclear 3
      ⟨_, _, (List.append_nil _).symm, .tail _ (.tail _ (.head _))⟩
    exact hdead 4 (.inr (.single (by decide +kernel))) (by decide +kernel)

end Conformance

end PairingHarness
