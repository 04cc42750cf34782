/-
What a run is checked for before it is made.

The names of the scenarios are checked first, then the overrides, then
the options that they name, and the first fault is all that is reported
(`FirstFault`). The two lists are checked from the front, so their first
fault is the first in the order given; the options are checked once the
overrides are gathered, in the order of their keys, so the fault is the
least key that names none. A run that has a fault leaves the service and
the host as they were; one that has none is that of its scenarios
(`makeRun_checks`).

A list of scenarios that is empty selects all of them, so it is never at
fault. Nothing is launched, dialled or waited for before all three
checks are through, and the proof of that is short because the checks do
not have the world at all: they are functions of the arguments and the
settings.
-/
import PairingHarness.Proofs.CommandLine.Overrides
import PairingHarness.Proofs.Conformance

namespace PairingHarness.CommandLine

open Host Network

variable {s : Settings} {a : RunArguments} {r : Rejection}
  {names texts : List String}

-- ======================================================= the statement

/-- Some scenario has this name. -/
def IsScenario (name : String) : Prop :=
  ∃ kind, ScenarioKind.ofName name = .ok kind

/-- Some option has this name. -/
def IsOption (key : String) : Prop :=
  ∃ o : OptionName, key = o.name

/-- The scenarios that names select: those named, in the order given and
as often, or all where none is named. -/
inductive Selects : List String → List ScenarioKind → Prop where
  | all : Selects [] ScenarioKind.all
  | named {names : List String} {kinds : List ScenarioKind}
      (hne : names ≠ [])
      (hnamed : List.Forall₂ (fun name kind =>
        ScenarioKind.ofName name = .ok kind) names kinds) :
      Selects names kinds

/-- Nothing is wrong with the arguments of a run. -/
structure Faultless (a : RunArguments) : Prop where
  scenarios : ∀ name ∈ a.scenarios, IsScenario name
  pairs : ∀ text ∈ a.overrides, '=' ∈ text.toList
  options : ∀ text ∈ a.overrides, ∀ key value,
    IsOverride text key value → IsOption key

/-- What is wrong first with the arguments of a run. -/
inductive FirstFault (a : RunArguments) : Rejection → Prop where
  /-- A name of no scenario, and those before it are names. -/
  | scenario {before after : List String} {name : String}
      (hsplit : a.scenarios = before ++ name :: after)
      (hbefore : ∀ x ∈ before, IsScenario x) (hname : ¬IsScenario name) :
      FirstFault a (.unknownScenario name)
  /-- All scenarios are known. An override has no equals sign, and those
  before it have one. -/
  | pair {before after : List String} {text : String}
      (hscenarios : ∀ x ∈ a.scenarios, IsScenario x)
      (hsplit : a.overrides = before ++ text :: after)
      (hbefore : ∀ x ∈ before, '=' ∈ x.toList)
      (htext : '=' ∉ text.toList) : FirstFault a (.notAPair text)
  /-- All scenarios are known and all overrides have a key. A key names no
  option, and no lesser key names none. -/
  | option {text key value : String}
      (hscenarios : ∀ x ∈ a.scenarios, IsScenario x)
      (hpairs : ∀ x ∈ a.overrides, '=' ∈ x.toList)
      (hmem : text ∈ a.overrides) (hkey : IsOverride text key value)
      (hunnamed : ¬IsOption key)
      (hleast : ∀ x ∈ a.overrides, ∀ k v, IsOverride x k v →
        ¬IsOption k → key ≤ k) :
      FirstFault a (.badOverride (.unknownOption key))

/-- What is reported of a run that was made. -/
def reported (effective : Settings)
    (o : Outcome (Conformance.Account Conformance.Summary)) :
    Option Output :=
  match o with
  | .done account => some (runReport effective account)
  | .failed e => some (.failure "" e.message)
  | .stalled => none

-- ======================================================= the scenarios

/-- The scenario of a name, or why a run is rejected. -/
def selected (name : String) : Except Rejection ScenarioKind :=
  match ScenarioKind.ofName name with
  | .ok kind => .ok kind
  | .error _ => .error (.unknownScenario name)

theorem selected_of_ofName {name : String} {kind : ScenarioKind}
    (h : ScenarioKind.ofName name = .ok kind) :
    selected name = .ok kind := by
  unfold selected
  rw [h]

theorem selected_of_unknown {name : String} (h : ¬IsScenario name) :
    selected name = .error (.unknownScenario name) := by
  unfold selected
  cases hname : ScenarioKind.ofName name with
  | ok kind => exact absurd ⟨kind, hname⟩ h
  | error e => rfl

theorem ofName_of_selected {name : String} {kind : ScenarioKind}
    (h : selected name = .ok kind) :
    ScenarioKind.ofName name = .ok kind := by
  by_cases hname : IsScenario name
  · obtain ⟨kind', hkind⟩ := hname
    rw [selected_of_ofName hkind] at h
    cases h
    exact hkind
  · rw [selected_of_unknown hname] at h
    cases h

theorem selectScenarios_of_ne (h : names ≠ []) :
    selectScenarios names = names.mapM selected := by
  unfold selectScenarios
  rw [if_neg (by simpa using h)]
  refine congrArg (fun f => names.mapM f) (funext fun name => ?_)
  unfold selected
  cases ScenarioKind.ofName name <;> rfl

/-- Where all names are known, the scenarios are selected in their order. -/
theorem selectScenarios_of_known (h : ∀ x ∈ names, IsScenario x) :
    ∃ kinds, selectScenarios names = .ok kinds ∧ Selects names kinds := by
  by_cases hne : names = []
  · subst hne
    exact ⟨_, rfl, .all⟩
  · obtain ⟨kinds, hkinds, hall⟩ := exists_mapM_ok (f := selected)
      fun x hx => by
        obtain ⟨kind, hkind⟩ := h x hx
        exact ⟨kind, selected_of_ofName hkind⟩
    rw [selectScenarios_of_ne hne]
    exact ⟨kinds, hkinds, .named hne
      (hall.imp fun x kind => ofName_of_selected)⟩

/-- The first name that is unknown is the one that is reported, whatever
follows it. -/
theorem selectScenarios_of_first {before after : List String}
    {name : String} (hbefore : ∀ x ∈ before, IsScenario x)
    (hname : ¬IsScenario name) :
    selectScenarios (before ++ name :: after)
      = .error (.unknownScenario name) := by
  rw [selectScenarios_of_ne (by simp)]
  refine mapM_of_first (fun x hx => ?_) (selected_of_unknown hname)
  obtain ⟨kind, hkind⟩ := hbefore x hx
  exact ⟨kind, selected_of_ofName hkind⟩

-- ======================================================= the overrides

/-- What overrides are gathered under are their keys. -/
def Gathers (texts : List String) (overrides : Overrides) : Prop :=
  ∀ key, (∃ value, (key, value) ∈ overrides.entries)
    ↔ ∃ text ∈ texts, ∃ value, IsOverride text key value

/-- The keys are small, so to name an option is to be its name. -/
theorem Gathers.named_iff {overrides : Overrides}
    (h : Gathers texts overrides) {y : String × String}
    (hy : y ∈ overrides.entries) :
    (∃ o : OptionName, Text.lower y.1 = o.name) ↔ IsOption y.1 := by
  obtain ⟨text, -, value, hkey⟩ := (h y.1).1 ⟨y.2, hy⟩
  rw [hkey.lower_key]
  rfl

/-- Overrides that have a key are gathered. -/
theorem readOverrides_of_pairs (h : ∀ x ∈ texts, '=' ∈ x.toList) :
    ∃ overrides, readOverrides texts = .ok overrides
      ∧ Gathers texts overrides := by
  obtain ⟨pairs, hpairs, hall⟩ := exists_mapM_ok (f := splitOverride)
    fun x hx => by
      obtain ⟨key, value, hkey⟩ := exists_isOverride (h x hx)
      exact ⟨_, splitOverride_of_isOverride hkey⟩
  refine ⟨Dictionary.ofPairs pairs, ?_, fun key => ?_⟩
  · unfold readOverrides
    rw [hpairs]
    rfl
  · rw [Dictionary.exists_mem_entries_ofPairs]
    simp only [mem_iff_of_forall₂ hall, splitOverride_eq_ok_iff]
    constructor
    · rintro ⟨value, text, htext, hkey⟩
      exact ⟨text, htext, value, hkey⟩
    · rintro ⟨text, htext, value, hkey⟩
      exact ⟨value, text, htext, hkey⟩

/-- The first text that is no pair is the one that is reported. -/
theorem readOverrides_of_first {before after : List String}
    {text : String} (hbefore : ∀ x ∈ before, '=' ∈ x.toList)
    (htext : '=' ∉ text.toList) :
    readOverrides (before ++ text :: after) = .error (.notAPair text) := by
  unfold readOverrides
  rw [mapM_of_first (fun x hx => ?_) (splitOverride_of_not_mem htext)]
  · rfl
  · obtain ⟨key, value, hkey⟩ := exists_isOverride (hbefore x hx)
    exact ⟨_, splitOverride_of_isOverride hkey⟩

-- =========================================================== the check

/-- What is wrong first is what a run is rejected for. -/
theorem check_of_firstFault (h : FirstFault a r) (s : Settings) :
    check s a = .error r := by
  unfold check
  cases h with
  | scenario hsplit hbefore hname =>
      rw [hsplit, selectScenarios_of_first hbefore hname]
      rfl
  | pair hscenarios hsplit hbefore htext =>
      obtain ⟨kinds, hkinds, -⟩ := selectScenarios_of_known hscenarios
      rw [hkinds, hsplit, readOverrides_of_first hbefore htext]
      rfl
  | @option text key value hscenarios hpairs hmem hkey hunnamed hleast =>
      obtain ⟨kinds, hkinds, -⟩ := selectScenarios_of_known hscenarios
      obtain ⟨overrides, hread, hkeys⟩ := readOverrides_of_pairs hpairs
      obtain ⟨value', hentry⟩ := (hkeys key).2 ⟨text, hmem, value, hkey⟩
      have hfail := Settings.withOverrides_of_least hentry
        (mt (hkeys.named_iff hentry).1 hunnamed) (fun y hy hy' => by
          obtain ⟨x, hx, v, hxkey⟩ := (hkeys y.1).1 ⟨y.2, hy⟩
          exact hleast x hx y.1 v hxkey (mt (hkeys.named_iff hy).2 hy')) s
      rw [hkey.lower_key] at hfail
      have hplan : Conformance.Plan.effective
          ⟨s, overrides, a.timing, a.startupGrace⟩
          = .error (.unknownOption key) := hfail
      simp only [hkinds, hread, bind, Except.bind, hplan]
      rfl

/-- Where nothing is wrong a run is accepted. -/
theorem check_of_faultless (h : Faultless a) (s : Settings) :
    ∃ kinds overrides effective, Selects a.scenarios kinds
      ∧ readOverrides a.overrides = .ok overrides
      ∧ s.withOverrides overrides = .ok effective
      ∧ check s a = .ok ⟨⟨s, overrides, a.timing, a.startupGrace⟩,
          effective, kinds⟩ := by
  obtain ⟨kinds, hkinds, hselects⟩ := selectScenarios_of_known h.scenarios
  obtain ⟨overrides, hread, hkeys⟩ := readOverrides_of_pairs h.pairs
  have hnamed : ∀ y ∈ overrides.entries,
      ∃ o : OptionName, Text.lower y.1 = o.name := by
    intro y hy
    obtain ⟨x, hx, v, hkey⟩ := (hkeys y.1).1 ⟨y.2, hy⟩
    exact (hkeys.named_iff hy).2 (h.options x hx y.1 v hkey)
  obtain ⟨effective, heffective⟩ := Settings.exists_foldlM_setOverride hnamed s
  have hplan : Conformance.Plan.effective
      ⟨s, overrides, a.timing, a.startupGrace⟩ = .ok effective := heffective
  refine ⟨kinds, overrides, effective, hselects, hread, heffective, ?_⟩
  unfold check
  simp only [hkinds, hread, bind, Except.bind, hplan]
  rfl

/-- Arguments with which something is wrong have a first fault. -/
theorem exists_firstFault (h : ¬Faultless a) : ∃ r, FirstFault a r := by
  by_cases hscenarios : ∀ x ∈ a.scenarios, IsScenario x
  · by_cases hpairs : ∀ x ∈ a.overrides, '=' ∈ x.toList
    · obtain ⟨overrides, -, hkeys⟩ := readOverrides_of_pairs hpairs
      have hnot : ¬∀ y ∈ overrides.entries,
          ∃ o : OptionName, Text.lower y.1 = o.name := by
        intro hall
        refine h ⟨hscenarios, hpairs, fun text htext key value hkey => ?_⟩
        obtain ⟨v, hentry⟩ := (hkeys key).2 ⟨text, htext, value, hkey⟩
        exact (hkeys.named_iff hentry).1 (hall _ hentry)
      obtain ⟨y, hy, hunnamed, hleast⟩ := Settings.exists_least_unnamed hnot
      obtain ⟨text, htext, value, hkey⟩ := (hkeys y.1).1 ⟨y.2, hy⟩
      refine ⟨_, .option hscenarios hpairs htext hkey
        (mt (hkeys.named_iff hy).2 hunnamed) fun x hx k v hxkey hk => ?_⟩
      obtain ⟨v', hentry⟩ := (hkeys k).2 ⟨x, hx, v, hxkey⟩
      exact hleast _ hentry (mt (hkeys.named_iff hentry).1 hk)
    · obtain ⟨before, text, after, hsplit, hbefore, htext⟩ :=
        exists_first hpairs
      exact ⟨_, .pair hscenarios hsplit hbefore htext⟩
  · obtain ⟨before, name, after, hsplit, hbefore, hname⟩ :=
      exists_first hscenarios
    exact ⟨_, .scenario hsplit hbefore hname⟩

-- ============================================================= the run

/-- A run that is rejected says so and does nothing. -/
theorem makeRun_of_rejected (hcheck : check s a = .error r)
    (chances : Nat → Chance) (w : World) (m : Machine) :
    makeRun s a chances w m = (some (.failure "" r.message), w, m) := by
  unfold makeRun
  rw [hcheck]

/-- A run that is accepted is made, and reported. -/
theorem makeRun_of_accepted {c : Checked} {chances : Nat → Chance}
    {w w' : World} {m m' : Machine}
    {o : Outcome (Conformance.Account Conformance.Summary)}
    (hcheck : check s a = .ok c)
    (hrun : Conformance.run c.plan chances c.kinds w m = (o, w', m')) :
    makeRun s a chances w m = (reported c.effective o, w', m') := by
  unfold makeRun
  rw [hcheck]
  simp only [hrun]
  cases o <;> rfl

/-- Where something is wrong with the arguments, a run reports what is
wrong first and nothing else, and leaves the service and the host as they
were. Where nothing is wrong, it is the run of the scenarios that the
names select, with the overrides laid over the settings. -/
theorem makeRun_checks (vars : List (String × String)) (a : RunArguments)
    (chances : Nat → Chance) (w : World) (m : Machine) :
    (¬Faultless a → ∃ r, FirstFault a r ∧ (∀ r', FirstFault a r' → r' = r)
        ∧ makeRun (Settings.ofVariables vars) a chances w m
          = (some (.failure "" r.message), w, m))
      ∧ (Faultless a → ∃ kinds overrides effective,
        Selects a.scenarios kinds
          ∧ readOverrides a.overrides = .ok overrides
          ∧ (Settings.ofVariables vars).withOverrides overrides
            = .ok effective
          ∧ ∃ o w' m', Conformance.run ⟨Settings.ofVariables vars,
              overrides, a.timing, a.startupGrace⟩ chances kinds w m
              = (o, w', m')
            ∧ makeRun (Settings.ofVariables vars) a chances w m
              = (reported effective o, w', m')) := by
  -- one fault stops the command before the service is touched; without any
  -- the run is the one of the plan
  constructor
  · intro hfault
    obtain ⟨r, hr⟩ := exists_firstFault hfault
    have hcheck := check_of_firstFault hr (Settings.ofVariables vars)
    refine ⟨r, hr, fun r' hr' => ?_, makeRun_of_rejected hcheck chances w m⟩
    have hcheck' := check_of_firstFault hr' (Settings.ofVariables vars)
    rw [hcheck] at hcheck'
    cases hcheck'
    rfl
  · intro hfaultless
    obtain ⟨kinds, overrides, effective, hselects, hread, hwith, hcheck⟩ :=
      check_of_faultless hfaultless (Settings.ofVariables vars)
    refine ⟨kinds, overrides, effective, hselects, hread, hwith, ?_⟩
    cases hrun : Conformance.run ⟨Settings.ofVariables vars, overrides,
        a.timing, a.startupGrace⟩ chances kinds w m with
    | mk o after =>
        obtain ⟨w', m'⟩ := after
        have hmake := makeRun_of_accepted hcheck hrun
        exact ⟨o, w', m', rfl, hmake⟩

/-- Arguments in which two keys name no option. -/
def strayArguments : RunArguments :=
  ⟨["max-data"], ["b=1", "PORT=9100", " A =2=3"], .defaults,
    Supervisor.defaultStartupGrace⟩

/-- Of two keys that name no option the lesser one is reported, though it
was given last. -/
theorem makeRun_checks_stray :
    ¬Faultless strayArguments ∧ ∃ r, FirstFault strayArguments r
      ∧ makeRun (Settings.ofVariables [("TEST_PORT", "9000")])
          strayArguments (fun _ => Scenario.oneExchange.chance)
          (World.start Conformance.relayingOncePair)
          (Machine.start Conformance.idling)
        = (some ⟨1, "", "Error: unknown option: a\n"⟩,
          World.start Conformance.relayingOncePair,
          Machine.start Conformance.idling) := by
  have hkey : IsOverride " A =2=3" "a" "2=3" :=
    ⟨" A ", by decide, by decide, by decide⟩
  have hfault : ¬Faultless strayArguments := by
    intro h
    obtain ⟨o, ho⟩ := h.options " A =2=3" (by decide) "a" "2=3" hkey
    cases o <;> exact absurd ho (by decide)
  obtain ⟨r, hr, -, hmake⟩ := (makeRun_checks [("TEST_PORT", "9000")]
    strayArguments (fun _ => Scenario.oneExchange.chance)
    (World.start Conformance.relayingOncePair)
    (Machine.start Conformance.idling)).1 hfault
  have hout : (makeRun (Settings.ofVariables [("TEST_PORT", "9000")])
      strayArguments (fun _ => Scenario.oneExchange.chance)
      (World.start Conformance.relayingOncePair)
      (Machine.start Conformance.idling)).1
        = some ⟨1, "", "Error: unknown option: a\n"⟩ := by
    decide +kernel
  rw [hmake] at hout
  refine ⟨hfault, r, hr, ?_⟩
  rw [hmake]
  exact congrArg (fun out => (out, _, _)) hout

end PairingHarness.CommandLine
