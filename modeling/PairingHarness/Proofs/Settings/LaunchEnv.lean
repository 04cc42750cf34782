/-
The environment of the service and the settings of the scenarios.

A run lays its overrides over the settings twice: once for the scenarios,
which run with the settings that come of it, and once more, by name and
raw, for the environment of the service. What each variable of that
environment holds is one formula, the deciding override or else the
setting (`get?_launchEnvWith`). The two agree on every option whose
value is kept as it is given. They part where an option that may be
unset is overridden with a blank: the scenarios take it as not set, and
the service is handed the blank (`launchEnvWith_eq_iff`).

Two functions lay the same overrides over the same settings,
`with_overrides` for the scenarios and `launch_env` for the service, and
the second does not go through the first. The blank is the one value on
which they differ, for the options that a blank makes unset; it is
stated as an iff so that nothing else is left to differ on.
-/
import PairingHarness.Proofs.Dictionary
import PairingHarness.Proofs.Settings.Overrides
import PairingHarness.Settings.LaunchEnv

namespace PairingHarness.Settings

variable {s e : Settings} {o p : OptionName} {overrides : Overrides}

-- ============================================================ variables

/-- No two options have one variable. -/
theorem launchVariable_injective
    (h : launchVariable o.name = launchVariable p.name) : o = p := by
  cases o <;> cases p <;> first | rfl | exact absurd h (by decide)

/-- The name of a variable that hands over an option other than the
command. -/
def IsLaunchVariable (name : String) : Prop :=
  ∃ o : OptionName, o ≠ .appPath ∧ name = launchVariable o.name

-- ========================================================== the settings

/-- The settings hand over what each option but the launch command is set
to. -/
theorem mem_launchPairs {k v : String} :
    (k, v) ∈ s.launchPairs
      ↔ ∃ o : OptionName, o ≠ .appPath ∧ k = launchVariable o.name
        ∧ s.get o = some v := by
  unfold launchPairs entries
  rw [List.mem_map]
  constructor
  · rintro ⟨⟨o, v'⟩, hmem, heq⟩
    obtain ⟨hmem, hne⟩ := List.mem_filter.1 hmem
    obtain ⟨o', -, hget⟩ := List.mem_filterMap.1 hmem
    obtain ⟨v'', hv'', hpair⟩ := Option.map_eq_some_iff.1 hget
    cases hpair
    cases heq
    exact ⟨o, by simpa using hne, rfl, hv''⟩
  · rintro ⟨o, hne, rfl, hget⟩
    refine ⟨(o, v), List.mem_filter.2 ⟨List.mem_filterMap.2 ⟨o, ?_, ?_⟩, ?_⟩,
      rfl⟩
    · cases o <;> decide
    · rw [hget]
      rfl
    · simpa using hne

/-- A variable is handed over for each option that is set. -/
theorem get?_launchEnv_eq_some_iff {k v : String} :
    s.launchEnv.get? k = some v
      ↔ ∃ o : OptionName, o ≠ .appPath ∧ k = launchVariable o.name
        ∧ s.get o = some v := by
  unfold launchEnv
  rw [Dictionary.get?_ofPairs, Dictionary.lookup_eq_some_iff_mem, List.mem_reverse,
    mem_launchPairs]
  rintro ⟨k, v⟩ ha ⟨k', v'⟩ hb (rfl : k = k')
  rw [List.mem_reverse, mem_launchPairs] at ha hb
  obtain ⟨o, -, hk, hv⟩ := ha
  obtain ⟨p, -, hk', hv'⟩ := hb
  cases launchVariable_injective (hk.symm.trans hk')
  exact Option.some.inj (hv.symm.trans hv')

theorem get?_launchEnv (ho : o ≠ .appPath) :
    s.launchEnv.get? (launchVariable o.name) = s.get o := by
  refine Option.ext fun v => ?_
  rw [get?_launchEnv_eq_some_iff]
  constructor
  · rintro ⟨p, -, hname, hget⟩
    rw [launchVariable_injective hname]
    exact hget
  · exact fun hget => ⟨o, ho, rfl, hget⟩

theorem get?_launchEnv_of_ne {k : String} (h : ¬IsLaunchVariable k) :
    s.launchEnv.get? k = none := by
  rw [Option.eq_none_iff_forall_not_mem]
  intro v hv
  obtain ⟨o, ho, hk, -⟩ := get?_launchEnv_eq_some_iff.1 hv
  exact h ⟨o, ho, hk⟩

-- ========================================================= the overrides

/-- The variables of overrides that each name an option: the last one
that names it counts. -/
private theorem lookup_overridePairs {es : List (String × String)}
    (hnames : ∀ x ∈ es, ∃ p : OptionName, Text.lower x.1 = p.name)
    (ho : o ≠ .appPath) :
    ((es.filter fun x => Text.lower x.1 != OptionName.appPath.name).map
        fun x => (launchVariable (Text.lower x.1), x.2)).reverse.lookup
        (launchVariable o.name)
      = lastNaming es o := by
  induction es with
  | nil => rfl
  | cons x es ih =>
      have hrest := ih fun y hy => hnames y (List.mem_cons_of_mem _ hy)
      obtain ⟨p, hp⟩ := hnames x List.mem_cons_self
      -- whether the first one names the option or another, the launch
      -- command among them
      by_cases hpo : p = o
      · subst hpo
        have hkeep : (Text.lower x.1 != OptionName.appPath.name) = true := by
          rw [hp]
          simpa using fun h => ho (OptionName.name_injective h)
        rw [List.filter_cons, if_pos hkeep, List.map_cons,
          List.reverse_cons, List.lookup_append, hrest,
          Dictionary.lookup_cons_eq, if_pos (by rw [hp]),
          lastNaming_cons_of_eq hp]
      · have hne : Text.lower x.1 ≠ o.name := fun h =>
          hpo (OptionName.name_injective (hp.symm.trans h))
        rw [lastNaming_cons_of_ne hne]
        by_cases hkeep : (Text.lower x.1 != OptionName.appPath.name) = true
        · have hvar : launchVariable o.name ≠ launchVariable (Text.lower x.1) :=
            fun h => hpo (launchVariable_injective (h.trans (by rw [hp]))).symm
          rw [List.filter_cons, if_pos hkeep, List.map_cons,
            List.reverse_cons, List.lookup_append, hrest,
            Dictionary.lookup_cons_eq, if_neg hvar]
          exact Option.or_none
        · rw [List.filter_cons, if_neg hkeep]
          exact hrest

/-- What an option is handed over as: as its deciding override has it, raw, or
else as it is set. -/
theorem get?_launchEnvWith
    (hnames : ∀ x ∈ overrides.entries, ∃ p : OptionName,
      Text.lower x.1 = p.name) (ho : o ≠ .appPath) (s : Settings) :
    (s.launchEnvWith overrides).get? (launchVariable o.name)
      = (deciding? overrides o).or (s.get o) := by
  unfold launchEnvWith overridePairs
  rw [Dictionary.get?_insertAll, lookup_overridePairs hnames ho,
    get?_launchEnv ho]
  rfl

/-- Nothing else is handed over. -/
theorem get?_launchEnvWith_of_ne
    (hnames : ∀ x ∈ overrides.entries, ∃ p : OptionName,
      Text.lower x.1 = p.name) {k : String} (h : ¬IsLaunchVariable k)
    (s : Settings) : (s.launchEnvWith overrides).get? k = none := by
  unfold launchEnvWith
  have hnone : (overridePairs overrides).reverse.lookup k = none := by
    rw [List.lookup_eq_none_iff]
    intro y hy
    unfold overridePairs at hy
    obtain ⟨x, hx, rfl⟩ := List.mem_map.1 (List.mem_reverse.1 hy)
    obtain ⟨hx, hkeep⟩ := List.mem_filter.1 hx
    obtain ⟨p, hp⟩ := hnames x hx
    have hne : k ≠ launchVariable (Text.lower x.1) := by
      rw [hp]
      rw [hp] at hkeep
      rintro rfl
      refine h ⟨p, ?_, rfl⟩
      rintro rfl
      simp at hkeep
    simpa using hne
  rw [Dictionary.get?_insertAll, hnone, get?_launchEnv_of_ne h]
  rfl

-- ============================================================ agreement

/-- An option keeps its deciding value unless it may be unset and the
value is blank. -/
theorem kept_eq_some_iff {value : String} :
    kept o value = some value
      ↔ (o.mayBeUnset = true → Text.isBlankText value = false) := by
  unfold kept unlessBlank
  by_cases ho : o.mayBeUnset = true
  · by_cases hv : Text.isBlankText value = true
    · simp [ho, hv]
    · simp [ho, hv]
  · simp [ho]

/-- The service is launched with exactly the options that the scenarios
run with, if and only if no option that may be unset is decided by a
blank. -/
theorem launchEnvWith_eq_iff (h : s.withOverrides overrides = .ok e) :
    e.launchEnvWith overrides = e.launchEnv
      ↔ ∀ o value, o.mayBeUnset = true → deciding? overrides o = some value →
        Text.isBlankText value = false := by
  have hnames := named_of_withOverrides h
  constructor
  · -- the variable of a blank option holds the blank in one environment
    -- and is missing in the other
    intro heq o value hmay hdecides
    have ho : o ≠ .appPath := by
      rintro rfl
      cases hmay
    have hget := get?_launchEnvWith hnames ho e
    rw [heq, get?_launchEnv ho, get_withOverrides h o, hdecides] at hget
    exact kept_eq_some_iff.1 hget hmay
  · intro hblank
    refine Dictionary.ext_get? fun k => ?_
    by_cases hk : IsLaunchVariable k
    · obtain ⟨o, ho, rfl⟩ := hk
      rw [get?_launchEnvWith hnames ho, get?_launchEnv ho]
      cases hdecides : deciding? overrides o with
      | none => rfl
      | some value =>
          rw [get_withOverrides h o, hdecides]
          exact (kept_eq_some_iff.2 fun hmay =>
            hblank o value hmay hdecides).symm
    · rw [get?_launchEnvWith_of_ne hnames hk, get?_launchEnv_of_ne hk]

/-- A lifetime given in capitals reaches both. -/
theorem launchEnvWith_lifetime :
    (defaults.set .timeout "60").launchEnvWith
        (Dictionary.ofPairs [("TIMEOUT", "60")])
      = (defaults.set .timeout "60").launchEnv := by
  have h : defaults.withOverrides (Dictionary.ofPairs [("TIMEOUT", "60")])
      = .ok (defaults.set .timeout "60") := rfl
  refine (launchEnvWith_eq_iff h).2 fun o value hmay hdecides => ?_
  cases o with
  | timeout =>
      cases hdecides
      rfl
  | mmdbLoc => cases hdecides
  | port | protocol | appPath | host | maxExchanges | maxData => cases hmay

/-- A blank lifetime reaches the service, although the scenarios run
without one. -/
theorem launchEnvWith_blank_lifetime :
    ¬∀ (s e : Settings) (overrides : Overrides),
      s.withOverrides overrides = .ok e →
        e.launchEnvWith overrides = e.launchEnv := by
  intro h
  have henv := h defaults defaults (Dictionary.ofPairs [("timeout", "")]) rfl
  have hblank : (defaults.launchEnvWith
      (Dictionary.ofPairs [("timeout", "")])).get? "PAIR_TIMEOUT"
        = some "" := rfl
  have hunset : defaults.launchEnv.get? "PAIR_TIMEOUT" = none := rfl
  rw [henv, hunset] at hblank
  cases hblank

end PairingHarness.Settings
