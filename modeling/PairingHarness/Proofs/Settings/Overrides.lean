/-
What overrides make of the settings.

Of the overrides that name an option in one letter case or another the
one with the greatest key decides it (`deciding?`), since they are
applied in the order of their keys and each replaces what the one before
it set. `get_withOverrides` says what every option holds afterwards: its
deciding value, as far as the option keeps it, or else what it held.

A blank unsets the options that may be unset and is kept by the others
(`kept`); that is a matter of the option and not of where the value
comes from, so the same holds for variables. The induction is on the
entries in their order, with the settings so far as what is carried.
-/
import PairingHarness.Proofs.Traversal
import PairingHarness.Settings.Basic

namespace PairingHarness

namespace OptionName

/-- Whether a blank value unsets an option. -/
def mayBeUnset : OptionName → Bool
  | mmdbLoc | timeout => true
  | port | protocol | appPath | host | maxExchanges | maxData => false

theorem name_injective {a b : OptionName} (h : a.name = b.name) : a = b := by
  cases a <;> cases b <;> first | rfl | exact absurd h (by decide)

/-- An option is known by its name and nothing else. -/
theorem ofName?_eq_some_iff {s : String} {o : OptionName} :
    ofName? s = some o ↔ s = o.name := by
  constructor
  · intro h
    have hname := List.find?_some h
    exact (eq_of_beq hname).symm
  · rintro rfl
    cases o <;> rfl

end OptionName

namespace Settings

variable {s e : Settings} {o : OptionName}

-- ====================================================== setting an option

/-- What an option holds once it is set to a value. -/
def kept (o : OptionName) (value : String) : Option String :=
  if o.mayBeUnset then unlessBlank value else some value

/-- An option that is set holds the value, as far as it keeps it, -/
theorem get_set_self (s : Settings) (o : OptionName) (value : String) :
    (s.set o value).get o = kept o value := by
  cases o <;> rfl

/-- and the others hold what they held. -/
theorem get_set_of_ne {p : OptionName} (h : p ≠ o) (s : Settings)
    (value : String) : (s.set p value).get o = s.get o := by
  cases p <;> cases o <;> first | rfl | exact absurd rfl h

-- ================================================== the deciding override

/-- The value of the last entry whose key names an option, in any letter
case. -/
def lastNaming (entries : List (String × String)) (o : OptionName) :
    Option String :=
  (entries.reverse.find? fun e => Text.lower e.1 == o.name).map (·.2)

/-- The value of the greatest key that names an option. -/
def deciding? (overrides : Overrides) (o : OptionName) : Option String :=
  lastNaming overrides.entries o

/-- An override that names the option counts unless a later one does. -/
theorem lastNaming_cons_of_eq {x : String × String}
    (h : Text.lower x.1 = o.name) (entries : List (String × String)) :
    lastNaming (x :: entries) o = (lastNaming entries o).or (some x.2) := by
  unfold lastNaming
  rw [List.reverse_cons, List.find?_append, Option.map_or]
  simp [h]

theorem lastNaming_cons_of_ne {x : String × String}
    (h : Text.lower x.1 ≠ o.name) (entries : List (String × String)) :
    lastNaming (x :: entries) o = lastNaming entries o := by
  unfold lastNaming
  rw [List.reverse_cons, List.find?_append, Option.map_or]
  simp [h]

-- ============================================================ all of them

/-- Overrides that are applied each name an option, and afterwards every
option holds what was set last, or else what it held. -/
theorem get_foldlM_setOverride {entries : List (String × String)}
    (h : entries.foldlM setOverride s = .ok e) :
    (∀ x ∈ entries, ∃ o : OptionName, Text.lower x.1 = o.name)
      ∧ ∀ o, e.get o = match lastNaming entries o with
        | some value => kept o value
        | none => s.get o := by
  -- on the list from the front, so a later naming of an option overrides what
  -- an earlier one set
  induction entries generalizing s with
  | nil =>
      cases h
      exact ⟨by simp, fun o => rfl⟩
  | cons x entries ih =>
      rw [List.foldlM_cons] at h
      unfold setOverride at h
      cases hx : OptionName.ofName? (Text.lower x.1) with
      | none =>
          rw [hx] at h
          cases h
      | some p =>
          rw [hx] at h
          obtain ⟨hnames, hget⟩ := ih h
          have hp := OptionName.ofName?_eq_some_iff.1 hx
          refine ⟨fun y hy => ?_, fun o => ?_⟩
          · rcases List.mem_cons.1 hy with rfl | hy
            · exact ⟨p, hp⟩
            · exact hnames y hy
          · rw [hget o]
            by_cases hpo : p = o
            · rw [lastNaming_cons_of_eq (hpo ▸ hp)]
              cases lastNaming entries o with
              | some value => rfl
              | none =>
                  rw [hpo]
                  exact get_set_self s o x.2
            · have hne : Text.lower x.1 ≠ o.name := fun heq =>
                hpo (OptionName.name_injective (hp.symm.trans heq))
              rw [lastNaming_cons_of_ne hne]
              cases lastNaming entries o with
              | some value => rfl
              | none => exact get_set_of_ne hpo s x.2

/-- Overrides that are applied each name an option. -/
theorem named_of_withOverrides {overrides : Overrides}
    (h : s.withOverrides overrides = .ok e) :
    ∀ x ∈ overrides.entries, ∃ o : OptionName, Text.lower x.1 = o.name :=
  (get_foldlM_setOverride h).1

/-- What an option holds once the overrides are applied. -/
theorem get_withOverrides {overrides : Overrides}
    (h : s.withOverrides overrides = .ok e) (o : OptionName) :
    e.get o = match deciding? overrides o with
      | some value => kept o value
      | none => s.get o :=
  (get_foldlM_setOverride h).2 o

-- ==================================================== whether they are

/-- Overrides that each name an option are applied. -/
theorem exists_foldlM_setOverride {entries : List (String × String)}
    (h : ∀ x ∈ entries, ∃ o : OptionName, Text.lower x.1 = o.name)
    (s : Settings) : ∃ e, entries.foldlM setOverride s = .ok e := by
  induction entries generalizing s with
  | nil => exact ⟨s, rfl⟩
  | cons x entries ih =>
      obtain ⟨o, ho⟩ := h x List.mem_cons_self
      rw [List.foldlM_cons]
      unfold setOverride
      rw [OptionName.ofName?_eq_some_iff.2 ho]
      exact ih (fun y hy => h y (List.mem_cons_of_mem _ hy)) _

/-- The first override that names no option is the failure. -/
theorem withOverrides_of_unnamed {overrides : Overrides}
    {before after : List (String × String)} {x : String × String}
    (hsplit : overrides.entries = before ++ x :: after)
    (hbefore : ∀ y ∈ before, ∃ o : OptionName, Text.lower y.1 = o.name)
    (hx : ¬∃ o : OptionName, Text.lower x.1 = o.name) (s : Settings) :
    s.withOverrides overrides
      = .error (.unknownOption (Text.lower x.1)) := by
  obtain ⟨e, he⟩ := exists_foldlM_setOverride hbefore s
  have hnone : OptionName.ofName? (Text.lower x.1) = none := by
    rw [Option.eq_none_iff_forall_not_mem]
    intro o ho
    exact hx ⟨o, OptionName.ofName?_eq_some_iff.1 ho⟩
  unfold withOverrides
  rw [hsplit, List.foldlM_append, he]
  show (x :: after).foldlM setOverride e = _
  rw [List.foldlM_cons]
  unfold setOverride
  rw [hnone]
  rfl

/-- The first override that names no option has the least key of those
that name none. -/
theorem le_of_first {overrides : Overrides}
    {before after : List (String × String)} {x y : String × String}
    (hsplit : overrides.entries = before ++ x :: after)
    (hbefore : ∀ z ∈ before, ∃ o : OptionName, Text.lower z.1 = o.name)
    (hy : y ∈ overrides.entries)
    (hunnamed : ¬∃ o : OptionName, Text.lower y.1 = o.name) :
    x.1 ≤ y.1 := by
  have hordered := overrides.ordered
  rw [hsplit] at hordered hy
  obtain ⟨-, hafter, -⟩ := List.pairwise_append.1 hordered
  obtain ⟨hafter, -⟩ := List.pairwise_cons.1 hafter
  rcases List.mem_append.1 hy with hy | hy
  · exact absurd (hbefore y hy) hunnamed
  · rcases List.mem_cons.1 hy with rfl | hy
    · exact String.le_refl _
    · exact Std.le_of_lt (hafter y hy)

/-- Overrides of which one names no option have a least key that does
not. -/
theorem exists_least_unnamed {overrides : Overrides}
    (h : ¬∀ x ∈ overrides.entries, ∃ o : OptionName,
      Text.lower x.1 = o.name) :
    ∃ x ∈ overrides.entries, (¬∃ o : OptionName, Text.lower x.1 = o.name)
      ∧ ∀ y ∈ overrides.entries,
        (¬∃ o : OptionName, Text.lower y.1 = o.name) → x.1 ≤ y.1 := by
  obtain ⟨before, x, after, hsplit, hbefore, hx⟩ := exists_first h
  refine ⟨x, ?_, hx, fun y hy hunnamed => ?_⟩
  · rw [hsplit]
    simp
  · exact le_of_first hsplit hbefore hy hunnamed

/-- The least key that names no option is the failure. -/
theorem withOverrides_of_least {overrides : Overrides}
    {x : String × String} (hmem : x ∈ overrides.entries)
    (hunnamed : ¬∃ o : OptionName, Text.lower x.1 = o.name)
    (hleast : ∀ y ∈ overrides.entries,
      (¬∃ o : OptionName, Text.lower y.1 = o.name) → x.1 ≤ y.1)
    (s : Settings) :
    s.withOverrides overrides
      = .error (.unknownOption (Text.lower x.1)) := by
  obtain ⟨before, y, after, hsplit, hbefore, hy⟩ := exists_first
    fun hall : ∀ y ∈ overrides.entries, ∃ o : OptionName,
      Text.lower y.1 = o.name => hunnamed (hall x hmem)
  have hfirst : y ∈ overrides.entries := by
    rw [hsplit]
    simp
  have heq : x.1 = y.1 := String.le_antisymm (hleast y hfirst hy)
    (le_of_first hsplit hbefore hmem hunnamed)
  rw [heq]
  exact withOverrides_of_unnamed hsplit hbefore hy s

-- ============================================================ small keys

/-- Where keys are small and each occurs once, the one that names an
option is the option's name. -/
theorem lastNaming_of_lower {entries : List (String × String)}
    (hordered : entries.Pairwise fun a b => a.1 < b.1)
    (hlower : ∀ x ∈ entries, Text.lower x.1 = x.1) :
    lastNaming entries o = entries.lookup o.name := by
  induction entries with
  | nil => rfl
  | cons x entries ih =>
      obtain ⟨hfirst, hordered⟩ := List.pairwise_cons.1 hordered
      have hrest := ih hordered fun y hy =>
        hlower y (List.mem_cons_of_mem _ hy)
      have hx := hlower x List.mem_cons_self
      rw [List.lookup_cons]
      by_cases hname : x.1 = o.name
      · have hnone : entries.lookup o.name = none := by
          rw [List.lookup_eq_none_iff]
          intro y hy
          have hlt := hfirst y hy
          rw [hname] at hlt
          have hne : o.name ≠ y.1 := fun heq =>
            String.lt_irrefl _ (heq ▸ hlt)
          simpa using hne
        rw [lastNaming_cons_of_eq (hx.trans hname), hrest, hnone, hname,
          beq_self_eq_true]
        rfl
      · have hne : (o.name == x.1) = false := by
          simpa using fun heq => hname heq.symm
        have hsmall : Text.lower x.1 ≠ o.name := by
          rw [hx]
          exact hname
        rw [lastNaming_cons_of_ne hsmall, hrest, hne]

/-- Where the keys are small, an option's name is the key that decides
it. -/
theorem deciding?_of_lower {overrides : Overrides}
    (h : ∀ x ∈ overrides.entries, Text.lower x.1 = x.1) (o : OptionName) :
    deciding? overrides o = overrides.get? o.name :=
  lastNaming_of_lower overrides.ordered h

end Settings

end PairingHarness
