/-
Overrides on the command line.

An override is read as a key and a value, parted at the first equals
sign (`splitOverride_eq_ok_iff`). The overrides of a run are gathered by
key before any of them is applied, and applied in the order of the keys,
while variables are applied as they come. The two agree nevertheless
(`withOverrides_readOverrides`): gathering keeps the last value of a key,
and an option holds the last value that it was given, whatever other
options were given in between.

Keys are made small when they are gathered, so two spellings of one
option are one key before the order of keys is looked at, and the last
of them counts. This is what makes the list on the command line behave
like a list of variables, and unlike a map of overrides whose keys keep
their case.
-/
import Mathlib.Data.List.TakeWhile
import PairingHarness.CommandLine.Command
import PairingHarness.Proofs.Dictionary
import PairingHarness.Proofs.Settings.Variables
import PairingHarness.Proofs.Text.Blank
import PairingHarness.Proofs.Text.Letter
import PairingHarness.Proofs.Traversal

namespace PairingHarness.CommandLine

-- ======================================================= one override

/-- A text is an override of a key with a value: the first equals sign
parts it, and the key is what stands before it, without the blanks around
it and in small letters. -/
def IsOverride (text key value : String) : Prop :=
  ∃ left, text = left ++ "=" ++ value ∧ '=' ∉ left.toList
    ∧ key = Text.lower (Text.trim left)

theorem forall_ne_equals {cs : List Char} (h : '=' ∉ cs) :
    ∀ c ∈ cs, decide (c ≠ '=') = true := by
  intro c hc
  have hne : c ≠ '=' := fun heq => h (heq ▸ hc)
  simpa using hne

/-- A text with an equals sign is parted at the first one; the value may
have more of them. -/
theorem splitOverride_of_isOverride {text key value : String}
    (h : IsOverride text key value) :
    splitOverride text = .ok (key, value) := by
  obtain ⟨left, rfl, hleft, rfl⟩ := h
  have hall := forall_ne_equals hleft
  have hlist : (left ++ "=" ++ value).toList
      = left.toList ++ '=' :: value.toList := by
    simp
  unfold splitOverride
  rw [hlist, List.dropWhile_append_of_pos hall,
    List.takeWhile_append_of_pos hall]
  simp [Text.trim]

/-- A text without one is no override. -/
theorem splitOverride_of_not_mem {text : String} (h : '=' ∉ text.toList) :
    splitOverride text = .error (.notAPair text) := by
  have hnil : text.toList.dropWhile (fun c => decide (c ≠ '=')) = [] :=
    List.dropWhile_eq_nil_iff.2 (forall_ne_equals h)
  unfold splitOverride
  rw [hnil]

/-- A text with an equals sign is an override of some key. -/
theorem exists_isOverride {text : String} (h : '=' ∈ text.toList) :
    ∃ key value, IsOverride text key value := by
  obtain ⟨before, after, hsplit, hbefore⟩ := List.eq_append_cons_of_mem h
  refine ⟨_, String.ofList after, String.ofList before, ?_, ?_, rfl⟩
  · rw [← String.toList_inj]
    simp [hsplit]
  · rwa [String.toList_ofList]

/-- What an override is read as is what it is an override of. -/
theorem splitOverride_eq_ok_iff {text key value : String} :
    splitOverride text = .ok (key, value) ↔ IsOverride text key value := by
  constructor
  · intro h
    by_cases hmem : '=' ∈ text.toList
    · obtain ⟨key', value', hoverride⟩ := exists_isOverride hmem
      rw [splitOverride_of_isOverride hoverride] at h
      cases h
      exact hoverride
    · rw [splitOverride_of_not_mem hmem] at h
      cases h
  · exact splitOverride_of_isOverride

/-- The keys of overrides are small. -/
theorem IsOverride.lower_key {text key value : String}
    (h : IsOverride text key value) : Text.lower key = key := by
  obtain ⟨left, -, -, rfl⟩ := h
  exact Text.lower_lower _

-- ===================================================== names as keys

/-- No name of an option has a blank or an equals sign in it, whatever
the case of its letters. -/
theorem plain_of_lower_eq_name {key : String} {o : OptionName}
    (h : Text.lower key = o.name) :
    ∀ c ∈ key.toList, c ≠ '=' ∧ Text.isBlank c = false := by
  have hplain : (o.name.toList.all fun c =>
      c != '=' && !Text.isBlank c) = true := by
    cases o <;> rfl
  rw [List.all_eq_true] at hplain
  intro c hc
  have hkept : ¬(65 ≤ c.toNat ∧ c.toNat ≤ 90) →
      c ≠ '=' ∧ Text.isBlank c = false := by
    intro hnone
    have hmem := hplain c (h ▸ Text.mem_lower hc hnone)
    simpa using hmem
  by_cases hcapital : 65 ≤ c.toNat ∧ c.toNat ≤ 90
  · constructor
    · rintro rfl
      exact absurd hcapital (by decide)
    · simp only [Text.isBlank, Bool.or_eq_false_iff, Bool.and_eq_false_iff,
        decide_eq_false_iff_not, beq_eq_false_iff_ne]
      omega
  · exact hkept hcapital

/-- An option's name in any letter case, an equals sign and a value are an
override of that option. -/
theorem isOverride_of_name {key value : String} {o : OptionName}
    (h : Text.lower key = o.name) :
    IsOverride (key ++ "=" ++ value) (Text.lower key) value := by
  have hplain := plain_of_lower_eq_name h
  have htrim := Text.trim_of_noBlank fun c hc => (hplain c hc).2
  exact ⟨key, rfl, fun hc => (hplain _ hc).1 rfl, by rw [htrim]⟩

-- =========================================================== gathering

/-- Pairs gathered by their keys in small letters; the last value of a
key counts. -/
def gathered (pairs : List (String × String)) : Overrides :=
  Dictionary.ofPairs (pairs.map fun p => (Text.lower p.1, p.2))

theorem key_of_gathered {pairs : List (String × String)}
    {x : String × String} (hx : x ∈ (gathered pairs).entries) :
    ∃ p ∈ pairs, x.1 = Text.lower p.1 := by
  obtain ⟨v, hv⟩ := Dictionary.exists_mem_entries_ofPairs.1 ⟨x.2, hx⟩
  obtain ⟨p, hp, heq⟩ := List.mem_map.1 hv
  exact ⟨p, hp, (congrArg Prod.fst heq).symm⟩

/-- Gathered keys are in small letters. -/
theorem lower_key_of_gathered {pairs : List (String × String)} :
    ∀ x ∈ (gathered pairs).entries, Text.lower x.1 = x.1 := by
  intro x hx
  obtain ⟨p, -, heq⟩ := key_of_gathered hx
  rw [heq, Text.lower_lower]

/-- Gathering keeps for every option the last value given for it. -/
theorem deciding?_gathered (pairs : List (String × String))
    (o : OptionName) :
    Settings.deciding? (gathered pairs) o = Settings.lastNaming pairs o := by
  rw [Settings.deciding?_of_lower lower_key_of_gathered]
  unfold gathered
  rw [Dictionary.get?_ofPairs]
  induction pairs with
  | nil => rfl
  | cons p pairs ih =>
      rw [List.map_cons, List.reverse_cons, List.lookup_append, ih,
        Dictionary.lookup_cons_eq]
      by_cases hp : Text.lower p.1 = o.name
      · rw [if_pos hp.symm, Settings.lastNaming_cons_of_eq hp]
      · rw [if_neg (Ne.symm hp), Settings.lastNaming_cons_of_ne hp]
        exact Option.or_none

/-- Overrides that name options are gathered. -/
theorem readOverrides_of_names {pairs : List (String × String)}
    (h : ∀ p ∈ pairs, ∃ o : OptionName, Text.lower p.1 = o.name) :
    readOverrides (pairs.map fun p => p.1 ++ "=" ++ p.2)
      = .ok (gathered pairs) := by
  have hread : (pairs.map fun p => p.1 ++ "=" ++ p.2).mapM splitOverride
      = .ok (pairs.map fun p => (Text.lower p.1, p.2)) := by
    rw [List.mapM_map]
    refine mapM_eq_map fun p hp => ?_
    obtain ⟨o, ho⟩ := h p hp
    exact splitOverride_of_isOverride (isOverride_of_name ho)
  unfold readOverrides
  rw [hread]
  rfl

-- ============================================ variables and overrides

/-- The last variable that names an option is the last pair that does. -/
theorem lastSetting_map (pairs : List (String × String)) (o : OptionName) :
    Settings.lastSetting
        (pairs.map fun p => (Settings.variableStart ++ p.1, p.2)) o
      = Settings.lastNaming pairs o := by
  induction pairs with
  | nil => rfl
  | cons p pairs ih =>
      have hoption : Settings.optionOfVariable?
            (Settings.variableStart ++ p.1, p.2).1 = some o
          ↔ Text.lower p.1 = o.name := by
        rw [Settings.optionOfVariable?_append]
        exact OptionName.ofName?_eq_some_iff
      rw [List.map_cons]
      by_cases hp : Text.lower p.1 = o.name
      · rw [Settings.lastSetting_cons_of_eq (hoption.2 hp), ih,
          Settings.lastNaming_cons_of_eq hp]
      · rw [Settings.lastSetting_cons_of_ne (mt hoption.1 hp), ih,
          Settings.lastNaming_cons_of_ne hp]

/-- What an option holds after variables made of pairs. -/
theorem get_ofVariables_append (vars pairs : List (String × String))
    (o : OptionName) :
    (Settings.ofVariables (vars ++ pairs.map fun p =>
        (Settings.variableStart ++ p.1, p.2))).get o
      = match Settings.lastNaming pairs o with
        | some value => Settings.kept o value
        | none => (Settings.ofVariables vars).get o := by
  have hget := Settings.get_foldl_setVariable
    (pairs.map fun p => (Settings.variableStart ++ p.1, p.2))
    (Settings.ofVariables vars) o
  rw [lastSetting_map] at hget
  unfold Settings.ofVariables at hget ⊢
  rw [List.foldl_append]
  exact hget

/-- Options given as overrides on the command line, in any letter case
and with any values, have the effect of the variables that set them, put
last and in the same order. -/
theorem withOverrides_readOverrides (vars pairs : List (String × String))
    (hnames : ∀ p ∈ pairs, ∃ o : OptionName, Text.lower p.1 = o.name) :
    ∃ overrides,
      readOverrides (pairs.map fun p => p.1 ++ "=" ++ p.2) = .ok overrides
        ∧ (Settings.ofVariables vars).withOverrides overrides
          = .ok (Settings.ofVariables
              (vars ++ pairs.map fun p => ("TEST_" ++ p.1, p.2))) := by
  refine ⟨_, readOverrides_of_names hnames, ?_⟩
  have hall : ∀ x ∈ (gathered pairs).entries,
      ∃ o : OptionName, Text.lower x.1 = o.name := by
    intro x hx
    obtain ⟨p, hp, heq⟩ := key_of_gathered hx
    obtain ⟨o, ho⟩ := hnames p hp
    exact ⟨o, by rw [heq, Text.lower_lower, ho]⟩
  obtain ⟨e, he⟩ := Settings.exists_foldlM_setOverride hall
    (Settings.ofVariables vars)
  have hwith : (Settings.ofVariables vars).withOverrides (gathered pairs)
      = .ok e := he
  rw [hwith]
  refine congrArg Except.ok (Settings.ext_get fun o => ?_)
  -- on both sides the last pair that names the option decides
  have hget := Settings.get_withOverrides hwith o
  rw [deciding?_gathered] at hget
  exact hget.trans (get_ofVariables_append vars pairs o).symm

/-- The last value of an option counts either way, and a blank unsets the
lifetime that a variable had set. -/
theorem withOverrides_readOverrides_twice :
    ∃ overrides,
      readOverrides ["PORT=9100", "Timeout= ", "port=a=b"] = .ok overrides
        ∧ (Settings.ofVariables [("TEST_TIMEOUT", "30")]).withOverrides
            overrides
          = .ok (Settings.ofVariables [("TEST_TIMEOUT", "30"),
              ("TEST_PORT", "9100"), ("TEST_Timeout", " "),
              ("TEST_port", "a=b")])
        ∧ (Settings.ofVariables [("TEST_TIMEOUT", "30"),
            ("TEST_PORT", "9100"), ("TEST_Timeout", " "),
            ("TEST_port", "a=b")])
          = { Settings.defaults with port := "a=b" } := by
  obtain ⟨overrides, hread, hwith⟩ := withOverrides_readOverrides
    [("TEST_TIMEOUT", "30")]
    [("PORT", "9100"), ("Timeout", " "), ("port", "a=b")] (by
      intro p hp
      simp only [List.mem_cons, List.not_mem_nil, or_false] at hp
      rcases hp with rfl | rfl | rfl
      · exact ⟨.port, rfl⟩
      · exact ⟨.timeout, rfl⟩
      · exact ⟨.port, rfl⟩)
  exact ⟨overrides, hread, hwith, rfl⟩

end PairingHarness.CommandLine
