/-
What variables make of the settings.

A variable that names an option sets it, and a later one replaces what
an earlier one set; every other variable is passed over. So afterwards an
option holds what the last variable that names it gave it
(`get_foldl_setVariable`), whatever stands in between. Settings are known
by what their options hold (`ext_get`). So they depend on nothing but the
variables that mention each option, in the order in which these stand
(`ofVariables_lastMention`).

Variables are given as a list, in which a name may come more than once,
and no order of keys is imposed on them: this is where they differ from
overrides. Reordering variables of different options, or leaving out
those that name none, changes nothing; both follow from the one
statement about mentions.
-/
import PairingHarness.Proofs.Settings.Overrides

namespace PairingHarness.Settings

variable {s e : Settings} {o : OptionName}

/-- Settings in which every option holds the same are the same. -/
theorem ext_get (h : ∀ o, s.get o = e.get o) : s = e := by
  cases s
  cases e
  cases Option.some.inj (h .port)
  cases Option.some.inj (h .protocol)
  cases Option.some.inj (h .appPath)
  cases Option.some.inj (h .host)
  cases Option.some.inj (h .maxExchanges)
  cases Option.some.inj (h .maxData)
  cases h .mmdbLoc
  cases h .timeout
  rfl

-- ==================================================== naming an option

/-- What stands behind a front is found, -/
theorem after?_append (front rest : List Char) :
    after? front (front ++ rest) = some rest := by
  induction front with
  | nil => rfl
  | cons c front ih =>
      show (if c = c then after? front (front ++ rest) else none) = _
      rw [if_pos rfl, ih]

/-- and what is found stands behind it. -/
theorem append_of_after? {front text rest : List Char}
    (h : after? front text = some rest) : text = front ++ rest := by
  induction front generalizing text with
  | nil => exact Option.some.inj h
  | cons c front ih =>
      cases text with
      | nil => cases h
      | cons d text =>
          unfold after? at h
          split at h
          · next heq => rw [heq, ih h, List.cons_append]
          · cases h

/-- A variable of the start and a name is for the option of this name, in
any letter case. -/
theorem optionOfVariable?_append (name : String) :
    optionOfVariable? (variableStart ++ name)
      = OptionName.ofName? (Text.lower name) := by
  unfold optionOfVariable?
  rw [String.toList_append, after?_append, Option.bind_some,
    String.ofList_toList]

/-- A variable with the key mentions the option: the key is the start, in
exactly these letters, and the option's name in any letter case. -/
def Mentions (key : String) (o : OptionName) : Prop :=
  ∃ name, key = "TEST_" ++ name ∧ Text.lower name = o.name

/-- A variable names an option where it is the prefix and the name in
capitals. -/
theorem optionOfVariable?_eq_some_iff {key : String} :
    optionOfVariable? key = some o ↔ Mentions key o := by
  constructor
  · intro h
    obtain ⟨rest, hrest, ho⟩ := Option.bind_eq_some_iff.1 h
    refine ⟨String.ofList rest, ?_, OptionName.ofName?_eq_some_iff.1 ho⟩
    rw [← String.toList_inj, String.toList_append,
      @String.toList_ofList rest]
    exact append_of_after? hrest
  · rintro ⟨name, rfl, hname⟩
    exact (optionOfVariable?_append name).trans
      (OptionName.ofName?_eq_some_iff.2 hname)

instance (key : String) (o : OptionName) : Decidable (Mentions key o) :=
  decidable_of_iff _ optionOfVariable?_eq_some_iff

-- ================================================ the deciding variable

/-- The value of the last variable that names an option. -/
def lastSetting (vars : List (String × String)) (o : OptionName) :
    Option String :=
  (vars.reverse.find? fun v => optionOfVariable? v.1 == some o).map (·.2)

/-- A variable that names the option counts unless a later one does. -/
theorem lastSetting_cons_of_eq {v : String × String}
    (h : optionOfVariable? v.1 = some o) (vars : List (String × String)) :
    lastSetting (v :: vars) o = (lastSetting vars o).or (some v.2) := by
  unfold lastSetting
  rw [List.reverse_cons, List.find?_append, Option.map_or]
  simp [h]

theorem lastSetting_cons_of_ne {v : String × String}
    (h : optionOfVariable? v.1 ≠ some o) (vars : List (String × String)) :
    lastSetting (v :: vars) o = lastSetting vars o := by
  unfold lastSetting
  rw [List.reverse_cons, List.find?_append, Option.map_or]
  simp [h]

/-- After the variables every option holds what the last one that names
it gave it, or else what it held. -/
theorem get_foldl_setVariable (vars : List (String × String))
    (s : Settings) (o : OptionName) :
    (vars.foldl setVariable s).get o = match lastSetting vars o with
      | some value => kept o value
      | none => s.get o := by
  induction vars generalizing s with
  | nil => rfl
  | cons v vars ih =>
      rw [List.foldl_cons, ih]
      by_cases hv : optionOfVariable? v.1 = some o
      · rw [lastSetting_cons_of_eq hv]
        cases lastSetting vars o with
        | some value => rfl
        | none =>
            unfold setVariable
            rw [hv]
            exact get_set_self s o v.2
      · rw [lastSetting_cons_of_ne hv]
        cases lastSetting vars o with
        | some value => rfl
        | none =>
            unfold setVariable
            cases hp : optionOfVariable? v.1 with
            | none => rfl
            | some p =>
                have hne : p ≠ o := fun heq => hv (heq ▸ hp)
                exact get_set_of_ne hne s v.2

-- ======================================================= last mentions

/-- The variables of a list that mention an option. -/
def mentioning (vars : List (String × String)) (o : OptionName) :
    List (String × String) :=
  vars.filter fun v => Mentions v.1 o

theorem mentioning_append (vars vars' : List (String × String))
    (o : OptionName) :
    mentioning (vars ++ vars') o = mentioning vars o ++ mentioning vars' o :=
  List.filter_append ..

theorem mentioning_cons_of_mentions {v : String × String}
    (h : Mentions v.1 o) (vars : List (String × String)) :
    mentioning (v :: vars) o = v :: mentioning vars o :=
  List.filter_cons_of_pos (by simpa using h)

theorem mentioning_cons_of_not {v : String × String}
    (h : ¬Mentions v.1 o) (vars : List (String × String)) :
    mentioning (v :: vars) o = mentioning vars o :=
  List.filter_cons_of_neg (by simpa using h)

/-- No variable mentions an option that none names. -/
theorem mentioning_eq_nil_iff {vars : List (String × String)} :
    mentioning vars o = [] ↔ ∀ v ∈ vars, ¬Mentions v.1 o := by
  unfold mentioning
  rw [List.filter_eq_nil_iff]
  simp only [decide_eq_true_eq]

/-- Two variables next to each other may change places unless both mention
the option. -/
theorem mentioning_swap {v w : String × String}
    (h : Mentions v.1 o → ¬Mentions w.1 o) (vars : List (String × String)) :
    mentioning (w :: v :: vars) o = mentioning (v :: w :: vars) o := by
  by_cases hv : Mentions v.1 o
  · rw [mentioning_cons_of_not (h hv), mentioning_cons_of_mentions hv,
      mentioning_cons_of_mentions hv, mentioning_cons_of_not (h hv)]
  · by_cases hw : Mentions w.1 o
    · rw [mentioning_cons_of_mentions hw, mentioning_cons_of_not hv,
        mentioning_cons_of_not hv, mentioning_cons_of_mentions hw]
    · rw [mentioning_cons_of_not hw, mentioning_cons_of_not hv,
        mentioning_cons_of_not hv, mentioning_cons_of_not hw]

/-- The value of the last mention, of all of them. -/
theorem lastSetting_eq (vars : List (String × String)) (o : OptionName) :
    lastSetting vars o = (mentioning vars o).getLast?.map (·.2) := by
  have hmentions : (fun v : String × String =>
      optionOfVariable? v.1 == some o) = fun v => decide (Mentions v.1 o) :=
    funext fun v => Bool.eq_iff_iff.2 (by
      rw [beq_iff_eq, decide_eq_true_iff, optionOfVariable?_eq_some_iff])
  unfold lastSetting mentioning
  rw [hmentions, ← List.head?_reverse, ← List.filter_reverse,
    List.head?_filter]

/-- An option holds what its last mention gives it, or else its
default. -/
theorem get_ofVariables (vars : List (String × String)) (o : OptionName) :
    (ofVariables vars).get o
      = match (mentioning vars o).getLast?.map (·.2) with
        | some value => kept o value
        | none => defaults.get o := by
  rw [← lastSetting_eq]
  exact get_foldl_setVariable vars defaults o

/-- Lists in which every option has the same mentions make the same
settings. -/
theorem ofVariables_congr {vars vars' : List (String × String)}
    (h : ∀ o, mentioning vars' o = mentioning vars o) :
    ofVariables vars' = ofVariables vars :=
  ext_get fun o => by rw [get_ofVariables, get_ofVariables, h o]

/-- Each option holds the value of the last variable that mentions it, a
blank one leaving it unset where it may be, or else its default; so
settings do not change with the order of variables for different options,
nor without variables that mention none. -/
theorem ofVariables_lastMention (vars : List (String × String)) :
    (∀ o before v after, vars = before ++ v :: after → Mentions v.1 o →
        (∀ w ∈ after, ¬Mentions w.1 o) →
        (ofVariables vars).get o = kept o v.2)
      ∧ (∀ o, (∀ v ∈ vars, ¬Mentions v.1 o) →
          (ofVariables vars).get o = defaults.get o)
      ∧ (∀ vars', (∀ o, mentioning vars' o = mentioning vars o) →
          ofVariables vars' = ofVariables vars)
      ∧ (∀ before v w after, vars = before ++ v :: w :: after →
          (∀ o, Mentions v.1 o → ¬Mentions w.1 o) →
          ofVariables (before ++ w :: v :: after) = ofVariables vars)
      ∧ ∀ before v after, vars = before ++ v :: after →
          (∀ o, ¬Mentions v.1 o) →
          ofVariables (before ++ after) = ofVariables vars := by
  refine ⟨?_, ?_, fun vars' h => ofVariables_congr h, ?_, ?_⟩
  · rintro o before v after rfl hv hafter
    have hlast : mentioning (before ++ v :: after) o
        = mentioning before o ++ [v] := by
      rw [mentioning_append, mentioning_cons_of_mentions hv,
        mentioning_eq_nil_iff.2 hafter]
    rw [get_ofVariables, hlast, List.getLast?_concat]
    rfl
  · intro o hvars
    rw [get_ofVariables, mentioning_eq_nil_iff.2 hvars]
    rfl
  · rintro before v w after rfl hdifferent
    refine ofVariables_congr fun o => ?_
    rw [mentioning_append, mentioning_append,
      mentioning_swap (hdifferent o)]
  · rintro before v after rfl hv
    refine ofVariables_congr fun o => ?_
    rw [mentioning_append, mentioning_append, mentioning_cons_of_not (hv o)]

/-- The last mention in any letter case of the name counts, a blank one
unsets the lifetime, and a key with a small start is passed over. -/
theorem ofVariables_blank_lifetime :
    (ofVariables [("TEST_TIMEOUT", "30"), ("TEST_Port", "9100"),
        ("TEST_timeout", " "), ("test_port", "1")]).get .timeout = none
      ∧ (ofVariables [("TEST_TIMEOUT", "30"), ("TEST_Port", "9100"),
        ("TEST_timeout", " "), ("test_port", "1")]).get .port = some "9100"
      ∧ ofVariables [("TEST_TIMEOUT", "30"), ("TEST_timeout", " "),
          ("TEST_Port", "9100"), ("test_port", "1")]
        = ofVariables [("TEST_TIMEOUT", "30"), ("TEST_Port", "9100"),
          ("TEST_timeout", " "), ("test_port", "1")] := by
  obtain ⟨hlast, -, -, hswap, -⟩ := ofVariables_lastMention
    [("TEST_TIMEOUT", "30"), ("TEST_Port", "9100"), ("TEST_timeout", " "),
      ("test_port", "1")]
  refine ⟨?_, ?_, ?_⟩
  · exact hlast .timeout [("TEST_TIMEOUT", "30"), ("TEST_Port", "9100")]
      ("TEST_timeout", " ") [("test_port", "1")] rfl ⟨"timeout", rfl, rfl⟩
      (by decide +kernel)
  · exact hlast .port [("TEST_TIMEOUT", "30")] ("TEST_Port", "9100")
      [("TEST_timeout", " "), ("test_port", "1")] rfl ⟨"Port", rfl, rfl⟩
      (by decide +kernel)
  · refine hswap [("TEST_TIMEOUT", "30")] ("TEST_Port", "9100")
      ("TEST_timeout", " ") [("test_port", "1")] rfl fun o hport => ?_
    cases optionOfVariable?_eq_some_iff.2 hport
    decide +kernel

end PairingHarness.Settings
