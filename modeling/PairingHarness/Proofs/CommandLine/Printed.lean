/-
The settings as they are printed are read back.

Every option that is set is a key of the text that is printed, and no
other key is (`getNamed_eq_some_iff`). The names of the options are keys
without quotes, and no two are the same (`isBareKey_name`,
`nodup_names`). So by the grammar of TOML the text is one table, which
holds the value of every option that is set.

The reading back is by the grammar and not by a reader of this program,
which has none: it is what any reader of TOML must make of the text.
That it can be read in one way only is part of the statement, since a
text that is ambiguous would be read back by accident.
-/
import PairingHarness.CommandLine.Command
import PairingHarness.Proofs.Settings.Overrides
import PairingHarness.Proofs.Text.Toml.Written

namespace PairingHarness.CommandLine

open Host Network Text.Toml

/-- The name of an option needs no quotes as a key. -/
theorem isBareKey_name (o : OptionName) : IsBareKey o.name := by
  cases o <;> exact ⟨by decide, by decide⟩

/-- The options that are set, by their names. -/
def namedEntries (s : Settings) : List (String × String) :=
  s.entries.map fun e => (e.1.name, e.2)

/-- What is printed is a line for every option that is set, in the order of
the options. -/
theorem shownAsToml_eq (s : Settings) :
    shownAsToml s
      = String.join ((namedEntries s).map fun e => entry e.1 e.2) := by
  rw [shownAsToml, namedEntries, List.map_map]
  rfl

theorem mem_entries_iff {s : Settings} {o : OptionName} {value : String} :
    (o, value) ∈ s.entries ↔ s.get o = some value := by
  have hall : o ∈ OptionName.all := by cases o <;> decide
  simp [Settings.entries, hall]

/-- What is listed under a name is what is found by it. -/
theorem getNamed_eq_some_iff {s : Settings} {key value : String} :
    s.getNamed key = some value ↔ (key, value) ∈ namedEntries s := by
  rw [Settings.getNamed, Option.bind_eq_some_iff, namedEntries,
    List.mem_map]
  constructor
  · rintro ⟨o, ho, hget⟩
    rw [OptionName.ofName?_eq_some_iff] at ho
    exact ⟨(o, value), mem_entries_iff.2 hget, by rw [ho]⟩
  · rintro ⟨⟨o, v⟩, hmem, he⟩
    obtain ⟨rfl, rfl⟩ := Prod.mk.inj he
    exact ⟨o, OptionName.ofName?_eq_some_iff.2 rfl, mem_entries_iff.1 hmem⟩

/-- No name is listed twice. -/
theorem nodup_names (s : Settings) :
    ((namedEntries s).map Prod.fst).Nodup := by
  have hall : OptionName.all.Nodup := by decide
  rw [namedEntries, List.map_map, List.Nodup, List.pairwise_map,
    Settings.entries, List.pairwise_filterMap]
  refine hall.imp fun hne e he e' he' h => hne ?_
  obtain ⟨_, _, rfl⟩ := Option.map_eq_some_iff.1 he
  obtain ⟨_, _, rfl⟩ := Option.map_eq_some_iff.1 he'
  exact OptionName.name_injective h

theorem parse_config_toml :
    parse ["config", "--format", "toml"] = .ok (.config .toml) := by
  have h : (parse ["config", "--format", "toml"]).toOption
      = some (.config .toml) := by
    decide +kernel
  cases hparse : parse ["config", "--format", "toml"] with
  | error stop =>
      rw [hparse] at h
      cases h
  | ok request =>
      rw [hparse] at h
      exact congrArg Except.ok (Option.some.inj h)

/-- Asked for the settings as TOML, the program prints them and leaves all
else as it was. -/
theorem respond_config_toml (vars : List (String × String))
    (chances : Nat → Chance) (w : World) (m : Machine) :
    respond ["config", "--format", "toml"] vars chances w m
      = (some (.success (shownAsToml (.ofVariables vars))), w, m) := by
  rw [respond, parse_config_toml]

/-- By the grammar of TOML the settings as they are printed are one table
and nothing else. Its keys are the names of the options that are set, and
each has the value of its option. -/
theorem shownAsToml_readsAs :
    (∀ s : Settings, ReadsAs (shownAsToml s).toList s.getNamed)
      ∧ ∀ (vars : List (String × String)) (chances : Nat → Chance)
        (w : World) (m : Machine), ∃ text,
          respond ["config", "--format", "toml"] vars chances w m
              = (some (.success text), w, m)
            ∧ ReadsAs text.toList (Settings.ofVariables vars).getNamed := by
  have hreads : ∀ s : Settings,
      ReadsAs (shownAsToml s).toList s.getNamed := by
    intro s
    rw [shownAsToml_eq]
    refine readsAs_entries ?_ (nodup_names s) fun _ _ =>
      getNamed_eq_some_iff
    intro e he
    obtain ⟨x, -, rfl⟩ := List.mem_map.1 he
    exact isBareKey_name x.1
  exact ⟨hreads, fun vars chances w m =>
    ⟨_, respond_config_toml vars chances w m, hreads _⟩⟩

end PairingHarness.CommandLine
