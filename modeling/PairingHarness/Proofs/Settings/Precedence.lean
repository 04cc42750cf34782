/-
Which override decides.

Overrides are applied all or none (`exists_withOverrides_iff`,
`withOverrides_eq_error_iff`), and of the keys that name one option in
different letter cases the greatest decides it. Applying overrides again
changes nothing. Keys in small letters cannot compete for an option, so
there one map of overrides after another is the same as the other laid on
top of the one (`withOverrides_onTop`), if the first can be applied. If it
cannot, the least key that names no option may be another one in the two
(`onTop_fails_otherwise`).

The statements about composition are for maps of overrides in small
letters, which is what the command line and the launch hand over; with
other letters a key of the first map may win over one of the second, and
there the two ways to put maps together do differ. Whether an error is
the same is kept apart from whether there is one.
-/
import PairingHarness.Proofs.Dictionary.Extremes
import PairingHarness.Proofs.Settings.Variables

namespace PairingHarness.Settings

variable {s e : Settings} {o : OptionName} {overrides top : Overrides}
  {value : String} {failure : Failure}

-- =============================================================== keys

/-- The key is the name of an option, in any letter case. -/
def NamesOption (key : String) : Prop :=
  ∃ o : OptionName, Text.lower key = o.name

/-- All keys are in small letters. -/
def Small (overrides : Overrides) : Prop :=
  ∀ key, overrides.IsKey key → Text.lower key = key

/-- The deciding value is that of the greatest key that names the option. -/
theorem deciding?_eq_some_iff :
    deciding? overrides o = some value
      ↔ overrides.Prevails (Text.lower · = o.name) value := by
  have hprevails := @Dictionary.map_find?_reverse_eq_some_iff overrides
    value fun key => Text.lower key == o.name
  simp only [beq_iff_eq] at hprevails
  exact hprevails

/-- There is none exactly where no key names it. -/
theorem deciding?_eq_none_iff :
    deciding? overrides o = none
      ↔ ∀ key, overrides.IsKey key → Text.lower key ≠ o.name := by
  have hnone := @Dictionary.map_find?_reverse_eq_none_iff overrides
    fun key => Text.lower key == o.name
  simp only [beq_iff_eq] at hnone
  exact hnone

theorem deciding?_of_small (h : Small overrides) (o : OptionName) :
    deciding? overrides o = overrides.get? o.name :=
  deciding?_of_lower (Dictionary.forall_isKey_iff.1 h) o

-- ======================================================== all or none

/-- Overrides are applied exactly when each of them names an option. -/
theorem exists_withOverrides_iff (s : Settings) :
    (∃ e, s.withOverrides overrides = .ok e)
      ↔ ∀ key, overrides.IsKey key → NamesOption key := by
  rw [Dictionary.forall_isKey_iff]
  constructor
  · rintro ⟨e, he⟩
    exact named_of_withOverrides he
  · exact fun h => exists_foldlM_setOverride h s

/-- Otherwise the least key that names none is the failure. -/
theorem withOverrides_eq_error_iff (s : Settings) :
    s.withOverrides overrides = .error failure
      ↔ ∃ key, overrides.Least (¬NamesOption ·) key
        ∧ failure = .unknownOption (Text.lower key) := by
  have hleast : ∀ key, overrides.Least (¬NamesOption ·) key →
      s.withOverrides overrides
        = .error (.unknownOption (Text.lower key)) := by
    rintro key ⟨⟨v, hv⟩, hkind, hle⟩
    refine withOverrides_of_least (x := (key, v))
      (Dictionary.mem_entries_iff.2 hv) hkind (fun y hy hunnamed => ?_) s
    exact Text.Utf8.encode_le_encode_iff.1
      (hle y.1 (Dictionary.isKey_of_mem hy) hunnamed)
  constructor
  · intro h
    -- with a name that is unknown there is a least one, and that is where the
    -- fold stops
    by_cases hall : ∀ key, overrides.IsKey key → NamesOption key
    · obtain ⟨e, he⟩ := (exists_withOverrides_iff s).2 hall
      rw [he] at h
      cases h
    · rw [Dictionary.forall_isKey_iff] at hall
      obtain ⟨x, hx, hunnamed, hle⟩ := exists_least_unnamed hall
      have hx' : overrides.Least (¬NamesOption ·) x.1 := by
        refine ⟨Dictionary.isKey_of_mem hx, hunnamed, fun k hk hkind => ?_⟩
        obtain ⟨y, hy, rfl⟩ := Dictionary.isKey_iff.1 hk
        exact Text.Utf8.encode_le_encode_iff.2 (hle y hy hkind)
      rw [hleast x.1 hx'] at h
      exact ⟨x.1, hx', (Except.error.inj h).symm⟩
  · rintro ⟨key, hkey, rfl⟩
    exact hleast key hkey

-- ========================================================== repetition

/-- Applying overrides once more changes nothing. -/
theorem withOverrides_again (s : Settings) (overrides : Overrides) :
    (s.withOverrides overrides >>= fun e => e.withOverrides overrides)
      = s.withOverrides overrides := by
  cases hs : s.withOverrides overrides with
  | error failure => rfl
  | ok e =>
      obtain ⟨e', he'⟩ := (exists_withOverrides_iff e).2
        ((exists_withOverrides_iff s).1 ⟨e, hs⟩)
      show e.withOverrides overrides = .ok e
      rw [he']
      refine congrArg Except.ok (ext_get fun o => ?_)
      rw [get_withOverrides he' o, get_withOverrides hs o]
      cases deciding? overrides o with
      | some value => rfl
      | none => rfl

-- ========================================================= composition

/-- Overrides in small letters that can be applied and others after them
are the same as the others on top. -/
theorem withOverrides_onTop (hsmall : Small overrides) (htop : Small top)
    (hs : s.withOverrides overrides = .ok e) :
    e.withOverrides top = s.withOverrides (overrides.onTop top) := by
  have hnamed := (exists_withOverrides_iff s).1 ⟨e, hs⟩
  cases he : e.withOverrides top with
  | error failure =>
      -- the least stray key of all is the least stray key on top
      obtain ⟨key, hleast, rfl⟩ := (withOverrides_eq_error_iff e).1 he
      refine ((withOverrides_eq_error_iff s).2 ⟨key, ?_, rfl⟩).symm
      refine ⟨Dictionary.isKey_onTop_iff.2 (.inl hleast.isKey),
        hleast.isOfKind, fun k hk hkind => ?_⟩
      rcases Dictionary.isKey_onTop_iff.1 hk with hk | hk
      · exact hleast.le k hk hkind
      · exact absurd (hnamed k hk) hkind
  | ok e' =>
      have hnamed' := (exists_withOverrides_iff e).1 ⟨e', he⟩
      obtain ⟨f, hf⟩ := (exists_withOverrides_iff s).2 fun k hk =>
        (Dictionary.isKey_onTop_iff.1 hk).elim (hnamed' k) (hnamed k)
      have hboth : Small (overrides.onTop top) := fun k hk =>
        (Dictionary.isKey_onTop_iff.1 hk).elim (htop k) (hsmall k)
      rw [hf]
      refine congrArg Except.ok (ext_get fun o => ?_)
      rw [get_withOverrides he o, get_withOverrides hs o,
        get_withOverrides hf o, deciding?_of_small htop,
        deciding?_of_small hsmall, deciding?_of_small hboth,
        Dictionary.get?_onTop]
      cases top.get? o.name with
      | some value => rfl
      | none => rfl

/-- Where the first overrides cannot be applied, neither can both
together, and each failure is about the least stray key of its own. -/
theorem withOverrides_onTop_of_stray (top : Overrides)
    (hs : ∀ e, s.withOverrides overrides ≠ .ok e) :
    ∃ key key', overrides.Least (¬NamesOption ·) key
      ∧ (overrides.onTop top).Least (¬NamesOption ·) key'
      ∧ s.withOverrides overrides
        = .error (.unknownOption (Text.lower key))
      ∧ s.withOverrides (overrides.onTop top)
        = .error (.unknownOption (Text.lower key')) := by
  cases hover : s.withOverrides overrides with
  | ok e => exact absurd hover (hs e)
  | error failure =>
      obtain ⟨key, hkey, rfl⟩ := (withOverrides_eq_error_iff s).1 hover
      cases hboth : s.withOverrides (overrides.onTop top) with
      | ok e =>
          have hnamed := (exists_withOverrides_iff s).1 ⟨e, hboth⟩ key
            (Dictionary.isKey_onTop_iff.2 (.inr hkey.isKey))
          exact absurd hnamed hkey.isOfKind
      | error failure' =>
          obtain ⟨key', hkey', rfl⟩ :=
            (withOverrides_eq_error_iff s).1 hboth
          exact ⟨key, key', hkey, hkey', rfl, rfl⟩

-- =========================================================== precedence

/-- What overrides make of settings. -/
structure Resolves (s : Settings) (overrides : Overrides) : Prop where
  /-- They are applied if every key names an option, and only then. -/
  applied : (∃ e, s.withOverrides overrides = .ok e)
    ↔ ∀ key, overrides.IsKey key → NamesOption key
  /-- The greatest of the keys that name an option decides it. -/
  decided : ∀ e, s.withOverrides overrides = .ok e → ∀ o value,
    overrides.Prevails (Text.lower · = o.name) value →
      e.get o = kept o value
  /-- An option that no key names keeps its value. -/
  untouched : ∀ e, s.withOverrides overrides = .ok e → ∀ o,
    (∀ key, overrides.IsKey key → Text.lower key ≠ o.name) →
      e.get o = s.get o
  /-- The failure is about the least key that names no option. -/
  rejected : ∀ failure, s.withOverrides overrides = .error failure
    ↔ ∃ key, overrides.Least (¬NamesOption ·) key
      ∧ failure = .unknownOption (Text.lower key)

theorem resolves (s : Settings) (overrides : Overrides) :
    s.Resolves overrides where
  applied := exists_withOverrides_iff s
  decided e he o value hvalue := by
    rw [get_withOverrides he o, deciding?_eq_some_iff.2 hvalue]
  untouched e he o hnone := by
    rw [get_withOverrides he o, deciding?_eq_none_iff.2 hnone]
  rejected _ := withOverrides_eq_error_iff s

/-- Overrides are applied all or none, the greatest key of an option
decides, and the least stray key is reported. Applied twice they are
applied once. In small letters, one map and then another is the other laid
on top of the one, if the one can be applied; if not, both ways fail, each
with the least stray key of its own. -/
theorem withOverrides_precedence (s : Settings) (overrides : Overrides) :
    s.Resolves overrides
      ∧ (s.withOverrides overrides >>= fun e => e.withOverrides overrides)
        = s.withOverrides overrides
      ∧ ∀ top, Small overrides → Small top →
        ((∃ e, s.withOverrides overrides = .ok e) →
          (s.withOverrides overrides >>= fun e => e.withOverrides top)
            = s.withOverrides (overrides.onTop top))
        ∧ ((∀ e, s.withOverrides overrides ≠ .ok e) →
          ∃ key key', overrides.Least (¬NamesOption ·) key
            ∧ (overrides.onTop top).Least (¬NamesOption ·) key'
            ∧ (s.withOverrides overrides >>= fun e => e.withOverrides top)
              = .error (.unknownOption (Text.lower key))
            ∧ s.withOverrides (overrides.onTop top)
              = .error (.unknownOption (Text.lower key'))) := by
  refine ⟨resolves s overrides, withOverrides_again s overrides,
    fun top hsmall htop => ⟨?_, fun hs => ?_⟩⟩
  · rintro ⟨e, hs⟩
    rw [hs]
    exact withOverrides_onTop hsmall htop hs
  · obtain ⟨key, key', hkey, hkey', hfirst, hboth⟩ :=
      withOverrides_onTop_of_stray top hs
    refine ⟨key, key', hkey, hkey', ?_, hboth⟩
    rw [hfirst]
    rfl

/-- The greater spelling decides, a blank unsets, and the map on top
wins. -/
theorem withOverrides_spellings :
    (∃ e, defaults.withOverrides (Dictionary.ofPairs
          [("port", "2"), ("PORT", "1"), ("mmdb_loc", "\t")]) = .ok e
        ∧ e.get .port = some "2" ∧ e.get .mmdbLoc = none
        ∧ e.get .host = some "localhost")
      ∧ (defaults.withOverrides (Dictionary.ofPairs
            [("port", "1"), ("mmdb_loc", "\t")]) >>= fun e =>
          e.withOverrides (Dictionary.ofPairs [("port", "2")]))
        = .ok { defaults with port := "2", mmdbLoc := none } := by
  constructor
  · obtain ⟨⟨-, hdecided, huntouched, -⟩, -, -⟩ :=
      withOverrides_precedence defaults (Dictionary.ofPairs
        [("port", "2"), ("PORT", "1"), ("mmdb_loc", "\t")])
    exact ⟨_, rfl, hdecided _ rfl .port "2" (deciding?_eq_some_iff.1 rfl),
      hdecided _ rfl .mmdbLoc "\t" (deciding?_eq_some_iff.1 rfl),
      huntouched _ rfl .host (deciding?_eq_none_iff.1 rfl)⟩
  · obtain ⟨-, -, honTop⟩ := withOverrides_precedence defaults
      (Dictionary.ofPairs [("port", "1"), ("mmdb_loc", "\t")])
    obtain ⟨happlied, -⟩ := honTop (Dictionary.ofPairs [("port", "2")])
      (Dictionary.forall_isKey_iff.2 (by decide +kernel))
      (Dictionary.forall_isKey_iff.2 (by decide +kernel))
    exact happlied ⟨_, rfl⟩

/-- A map that cannot be applied and another one are not the same as the
other on top: the least stray key is another one. -/
theorem onTop_fails_otherwise :
    ¬∀ (s : Settings) (overrides top : Overrides),
      Small overrides → Small top →
        (s.withOverrides overrides >>= fun e => e.withOverrides top)
          = s.withOverrides (overrides.onTop top) := by
  intro h
  have hsame := h defaults (Dictionary.ofPairs [("b", "")])
    (Dictionary.ofPairs [("a", "")])
    (Dictionary.forall_isKey_iff.2 (by decide +kernel))
    (Dictionary.forall_isKey_iff.2 (by decide +kernel))
  have hfirst : (defaults.withOverrides (Dictionary.ofPairs [("b", "")])
      >>= fun e => e.withOverrides (Dictionary.ofPairs [("a", "")]))
        = .error (.unknownOption "b") := rfl
  have hboth : defaults.withOverrides ((Dictionary.ofPairs
      [("b", "")]).onTop (Dictionary.ofPairs [("a", "")]))
        = .error (.unknownOption "a") := rfl
  rw [hfirst, hboth] at hsame
  have hkeys := Failure.unknownOption.inj (Except.error.inj hsame)
  exact absurd hkeys (by decide)

end PairingHarness.Settings
