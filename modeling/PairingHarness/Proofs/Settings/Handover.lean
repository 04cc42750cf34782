/-
What a launched service is handed.

Each variable is given by overrides or else by the settings
(`get?_launchEnvWith_eq_some_iff`). An override is handed over under its
key in capitals, so keys that differ in letter case give one variable, and
the greatest of them prevails; where no override gives a variable, it
holds what its option is set to. The launch command is in neither part,
in no letter case. So nobody can tell from the environment what the
command is, in the settings or among the overrides
(`launchEnvWith_exact`).

The launch command is left out because the service is that command and
has no use for it; it is left out of the overrides too, where it would
come back under a name that nobody expects. All of the statement is
about keys and values as texts, and no option is read for it.
-/
import PairingHarness.Proofs.Dictionary.Extremes
import PairingHarness.Proofs.Settings.LaunchEnv
import PairingHarness.Proofs.Text.Letter

namespace PairingHarness.Settings

variable {s s' : Settings} {overrides overrides' : Overrides}
  {name key value : String}

-- ====================================================== what gives what

/-- An override with the key is handed over under the name: the key in
capitals behind the start. The launch command is not handed over, however
its letters are written. -/
def Gives (name key : String) : Prop :=
  Text.lower key ≠ "app_path" ∧ name = "PAIR_" ++ Text.upper key

instance (name key : String) : Decidable (Gives name key) :=
  inferInstanceAs (Decidable (_ ∧ _))

/-- An option other than the command that is set to the value is handed
over under the name. -/
def Sets (s : Settings) (name value : String) : Prop :=
  ∃ o : OptionName, o ≠ .appPath ∧ name = launchVariable o.name
    ∧ s.get o = some value

/-- The variable of an override is the same for its key in small
letters. -/
theorem gives_iff :
    Gives name key
      ↔ (Text.lower key != OptionName.appPath.name
        && launchVariable (Text.lower key) == name) = true := by
  unfold Gives launchVariable
  rw [Text.upper_lower, Bool.and_eq_true, bne_iff_ne, beq_iff_eq]
  exact and_congr_right fun _ => eq_comm

/-- Of the overrides that give a variable the last one in the order of keys
is handed over. -/
theorem lookup_overridePairs_reverse (overrides : Overrides)
    (name : String) :
    (overridePairs overrides).reverse.lookup name
      = (overrides.entries.reverse.find?
          fun e => decide (Gives name e.1)).map (·.2) := by
  unfold overridePairs
  rw [← List.map_reverse, ← List.filter_reverse,
    Dictionary.lookup_map_filter]
  refine congrArg (Option.map _) (congrArg (List.find? · _) ?_)
  exact funext fun e => Bool.eq_iff_iff.2 (by rw [← gives_iff]; simp)

-- ================================================= what a variable holds

/-- A variable holds the value of the greatest key that gives it; where
no key does, it holds what its option is set to. -/
theorem get?_launchEnvWith_eq_some_iff :
    (s.launchEnvWith overrides).get? name = some value
      ↔ overrides.Prevails (Gives name) value
        ∨ (∀ key, overrides.IsKey key → ¬Gives name key)
          ∧ s.Sets name value := by
  have hprevails := @Dictionary.map_find?_reverse_eq_some_iff overrides
    value fun key => decide (Gives name key)
  have hnone := @Dictionary.map_find?_reverse_eq_none_iff overrides
    fun key => decide (Gives name key)
  simp only [decide_eq_true_eq] at hprevails hnone
  unfold launchEnvWith
  rw [Dictionary.get?_insertAll, Option.or_eq_some_iff,
    lookup_overridePairs_reverse, hprevails, hnone,
    get?_launchEnv_eq_some_iff]
  rfl

/-- What is handed over begins with the start. -/
theorem exists_of_get?_launchEnvWith
    (h : (s.launchEnvWith overrides).get? name = some value) :
    ∃ rest, name = "PAIR_" ++ rest := by
  rcases get?_launchEnvWith_eq_some_iff.1 h with hgiven | ⟨-, hset⟩
  · obtain ⟨key, hgreatest, -⟩ := hgiven
    exact ⟨_, hgreatest.isOfKind.2⟩
  · obtain ⟨o, -, hname, -⟩ := hset
    exact ⟨_, hname⟩

/-- No override gives the variable of the command. -/
theorem not_gives_appPath (key : String) : ¬Gives "PAIR_APP_PATH" key := by
  rintro ⟨hne, hname⟩
  have hupper : Text.upper key = "APP_PATH" := by
    have happend : "PAIR_" ++ Text.upper key = "PAIR_" ++ "APP_PATH" :=
      hname.symm
    exact String.append_right_inj _ |>.1 happend
  refine hne ?_
  rw [← Text.lower_upper, hupper]
  rfl

/-- The command is not handed over. -/
theorem get?_launchEnvWith_appPath (s : Settings)
    (overrides : Overrides) :
    (s.launchEnvWith overrides).get? "PAIR_APP_PATH" = none := by
  rw [Option.eq_none_iff_forall_ne_some]
  intro value hvalue
  rcases get?_launchEnvWith_eq_some_iff.1 hvalue with hgiven | ⟨-, hset⟩
  · obtain ⟨key, hgreatest, -⟩ := hgiven
    exact not_gives_appPath key hgreatest.isOfKind
  · obtain ⟨o, ho, hname, -⟩ := hset
    exact ho (launchVariable_injective hname.symm)

/-- The environment depends on nothing but the settings of the other
options and the overrides that are handed over. -/
theorem launchEnvWith_congr
    (hset : ∀ o, o ≠ .appPath → s'.get o = s.get o)
    (hgiven : ∀ key, Text.lower key ≠ "app_path" →
      overrides'.get? key = overrides.get? key) :
    s'.launchEnvWith overrides' = s.launchEnvWith overrides := by
  refine Dictionary.ext_get? fun name => Option.ext fun value => ?_
  have hprevails : overrides'.Prevails (Gives name) value
      ↔ overrides.Prevails (Gives name) value :=
    Dictionary.prevails_congr fun key hgives => hgiven key hgives.1
  have hunnamed : (∀ key, overrides'.IsKey key → ¬Gives name key)
      ↔ ∀ key, overrides.IsKey key → ¬Gives name key := by
    refine forall_congr' fun key => ?_
    unfold Dictionary.IsKey
    constructor
    · exact fun h hkey hgives =>
        h (by rwa [hgiven key hgives.1]) hgives
    · exact fun h hkey hgives =>
        h (by rwa [← hgiven key hgives.1]) hgives
  have hsets : s'.Sets name value ↔ s.Sets name value := by
    unfold Sets
    refine exists_congr fun o => and_congr_right fun ho => ?_
    rw [hset o ho]
  rw [get?_launchEnvWith_eq_some_iff, get?_launchEnvWith_eq_some_iff,
    hprevails, hunnamed, hsets]

-- ====================================================== the environment

/-- The environment of a launched service, variable by variable; it holds
nothing without the start and nothing of the launch command, and is the
same for settings and for overrides that differ in the command only. -/
theorem launchEnvWith_exact (s : Settings) (overrides : Overrides) :
    (∀ name value, (s.launchEnvWith overrides).get? name = some value
        ↔ overrides.Prevails (Gives name) value
          ∨ (∀ key, overrides.IsKey key → ¬Gives name key)
            ∧ s.Sets name value)
      ∧ (∀ name value,
          (s.launchEnvWith overrides).get? name = some value →
            ∃ rest, name = "PAIR_" ++ rest)
      ∧ (s.launchEnvWith overrides).get? "PATH" = none
      ∧ (s.launchEnvWith overrides).get? "PAIR_APP_PATH" = none
      ∧ (∀ s' : Settings, (∀ o, o ≠ .appPath → s'.get o = s.get o) →
          s'.launchEnvWith overrides = s.launchEnvWith overrides)
      ∧ ∀ overrides' : Overrides,
          (∀ key, Text.lower key ≠ "app_path" →
            overrides'.get? key = overrides.get? key) →
          s.launchEnvWith overrides' = s.launchEnvWith overrides := by
  refine ⟨fun name value => get?_launchEnvWith_eq_some_iff,
    fun name value => exists_of_get?_launchEnvWith, ?_,
    get?_launchEnvWith_appPath s overrides,
    fun s' hset => launchEnvWith_congr hset fun _ _ => rfl,
    fun overrides' hgiven => launchEnvWith_congr (fun _ _ => rfl) hgiven⟩
  rw [Option.eq_none_iff_forall_ne_some]
  intro value hvalue
  obtain ⟨rest, hrest⟩ := exists_of_get?_launchEnvWith hvalue
  -- the third letters differ
  have hletter := congrArg (fun name => name.toList[2]?) hrest
  simp at hletter

/-- Of two spellings of a name the greater one is handed over, a blank is
handed over as it is, and another command in both places changes
nothing. -/
theorem launchEnvWith_spellings :
    (defaults.launchEnvWith (Dictionary.ofPairs
        [("bogus", "2"), ("BOGUS", "1"), ("timeout", "")])).entries
      = [("PAIR_BOGUS", "2"), ("PAIR_HOST", "localhost"),
        ("PAIR_MAX_DATA", "3096"), ("PAIR_MAX_EXCHANGES", "5"),
        ("PAIR_MMDB_LOC", "../mmdb/latest/GeoLite2-City.mmdb"),
        ("PAIR_PORT", "8000"), ("PAIR_PROTOCOL", "ws"),
        ("PAIR_TIMEOUT", "")]
      ∧ defaults.launchEnvWith (Dictionary.ofPairs
            [("bogus", "2"), ("BOGUS", "1"), ("timeout", ""),
              ("App_Path", "sh")])
        = defaults.launchEnvWith (Dictionary.ofPairs
            [("bogus", "2"), ("BOGUS", "1"), ("timeout", "")])
      ∧ (defaults.set .appPath "sh").launchEnvWith (Dictionary.ofPairs
            [("bogus", "2"), ("BOGUS", "1"), ("timeout", "")])
        = defaults.launchEnvWith (Dictionary.ofPairs
            [("bogus", "2"), ("BOGUS", "1"), ("timeout", "")]) := by
  obtain ⟨-, -, -, -, hsettings, hoverrides⟩ := launchEnvWith_exact defaults
    (Dictionary.ofPairs [("bogus", "2"), ("BOGUS", "1"), ("timeout", "")])
  refine ⟨by decide +kernel, hoverrides _ fun key hkey => ?_,
    hsettings _ fun o ho => get_set_of_ne (Ne.symm ho) _ _⟩
  have hinsert := Dictionary.get?_insert (Dictionary.ofPairs
    [("bogus", "2"), ("BOGUS", "1"), ("timeout", "")]) "App_Path" "sh" key
  have hne : key ≠ "App_Path" := by
    rintro rfl
    exact hkey rfl
  rwa [if_neg hne] at hinsert

end PairingHarness.Settings
