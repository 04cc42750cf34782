/-
What names a scenario.

A letter of a name can be written as it is or in the other case, and an
underscore as a dash (`Varies`). Making a text plain undoes just that,
letter by letter (`varies_plain`, `Varies.plain_eq`), and neither makes a
blank nor takes one away. So a text names a scenario exactly if between
blanks it has the scenario's name in such a spelling (`ofName_eq_ok_iff`),
no text names two, and of two texts that differ in the blanks around them
and in spelling both name the same scenario or neither names any.

A dash is taken for an underscore wherever it stands, and letters in
either case, but no other likeness is: a name with a letter missing or a
blank inside is unknown. Blanks are those of Unicode, as the trimming of
texts has them, and the letters that have two cases are those of ASCII.
-/
import Mathlib.Data.List.Forall2
import PairingHarness.Proofs.Text.Blank
import PairingHarness.Proofs.Text.Letter
import PairingHarness.Scenario.Kind

namespace PairingHarness.ScenarioKind

open Text (isBlank trimmed IsCore isCore_trimmed trimmed_of_isCore
  isCore_of_noBlank toNat_toLower trimmed_map)

variable {c d : Char} {s t : String} {kind : ScenarioKind}

-- ============================================================= spelling

/-- How a letter of a name can be written: as it is, in the other case,
and a dash for an underscore. -/
inductive Varies : (written letter : Char) → Prop where
  | same (c : Char) : Varies c c
  | capital {c d : Char} (hc : c.isUpper = true)
      (hd : d.toNat = c.toNat + 32) : Varies c d
  | small {c d : Char} (hd : d.isUpper = true)
      (hc : c.toNat = d.toNat + 32) : Varies c d
  | dash : Varies '-' '_'

/-- The text is the characters with blanks before and behind them, if
any. -/
def Padded (core text : List Char) : Prop :=
  ∃ left right, text = left ++ core ++ right
    ∧ (∀ c ∈ left, isBlank c = true) ∧ ∀ c ∈ right, isBlank c = true

/-- Between blanks, the text is the name of the scenario in one of its
spellings. -/
def Spells (s : String) (kind : ScenarioKind) : Prop :=
  ∃ core, Padded core s.toList ∧ List.Forall₂ Varies core kind.name.toList

/-- Two texts that differ in the blanks around them and in spelling. -/
def Agrees (s t : String) : Prop :=
  ∃ core core', Padded core s.toList ∧ Padded core' t.toList
    ∧ List.Forall₂ (fun c d => Varies c d ∨ Varies d c) core core'

-- ======================================================= letter by letter

/-- A letter as the scenarios spell it. -/
def plain (c : Char) : Char :=
  undash c.toLower

theorem isUpper_iff : c.isUpper = true ↔ 65 ≤ c.toNat ∧ c.toNat ≤ 90 :=
  decide_eq_true_iff

theorem toNat_toLower_of_isUpper (h : c.isUpper = true) :
    c.toLower.toNat = c.toNat + 32 := by
  rw [toNat_toLower, if_pos (isUpper_iff.1 h)]

theorem toLower_of_not_isUpper (h : ¬c.isUpper = true) : c.toLower = c := by
  rw [isUpper_iff] at h
  refine Char.toNat_inj.1 ?_
  rw [toNat_toLower, if_neg h]

/-- Letters that differ in case only become the same small letter. -/
theorem toLower_of_capital (hc : c.isUpper = true)
    (hd : d.toNat = c.toNat + 32) : c.toLower = d := by
  refine Char.toNat_inj.1 ?_
  rw [toNat_toLower_of_isUpper hc, hd]

/-- Two spellings of a letter are the same when they are made plain, -/
theorem Varies.plain_eq (h : Varies c d) : plain c = plain d := by
  have hcase : ∀ {c d : Char}, c.isUpper = true → d.toNat = c.toNat + 32 →
      plain c = plain d := by
    intro c d hc hd
    have hnot : ¬d.isUpper = true := by
      rw [isUpper_iff] at hc ⊢
      omega
    unfold plain
    rw [toLower_of_capital hc hd, toLower_of_not_isUpper hnot]
  cases h with
  | same => rfl
  | capital hc hd => exact hcase hc hd
  | small hd hc => exact (hcase hd hc).symm
  | dash => rfl

/-- and a letter made plain is a spelling of it. -/
theorem varies_plain (c : Char) : Varies c (plain c) := by
  unfold plain undash
  split
  · next hdash =>
      by_cases hc : c.isUpper = true
      · have hlow := toNat_toLower_of_isUpper hc
        rw [hdash] at hlow
        have hge := (isUpper_iff.1 hc).1
        have : 45 = c.toNat + 32 := hlow
        omega
      · rw [toLower_of_not_isUpper hc] at hdash
        subst hdash
        exact .dash
  · by_cases hc : c.isUpper = true
    · exact .capital hc (toNat_toLower_of_isUpper hc)
    · rw [toLower_of_not_isUpper hc]
      exact .same c

theorem isBlank_toLower (c : Char) : isBlank c.toLower = isBlank c := by
  by_cases hc : c.isUpper = true
  · have hlow := toNat_toLower_of_isUpper hc
    rw [isUpper_iff] at hc
    rw [Bool.eq_iff_iff]
    simp only [isBlank, hlow]
    simp
    omega
  · rw [toLower_of_not_isUpper hc]

theorem isBlank_undash (c : Char) : isBlank (undash c) = isBlank c := by
  unfold undash
  split
  · next hc =>
      subst hc
      rfl
  · rfl

/-- Making plain neither makes nor takes a blank, so it does not matter
whether a name is trimmed before or after. -/
theorem isBlank_plain (c : Char) : isBlank (plain c) = isBlank c :=
  (isBlank_undash c.toLower).trans (isBlank_toLower c)

-- ======================================================== whole names

/-- The names are plain, and no blank is in them. -/
theorem plain_of_mem_name (h : c ∈ kind.name.toList) :
    plain c = c ∧ isBlank c = false := by
  have hall : kind.name.toList.all (fun c => plain c == c && !isBlank c)
      = true := by
    cases kind <;> decide
  simpa using List.all_eq_true.1 hall c h

/-- The names are plain themselves. -/
theorem map_plain_name (kind : ScenarioKind) :
    kind.name.toList.map plain = kind.name.toList := by
  have hmap := List.map_congr_left (f := plain) (g := id)
    fun c (hc : c ∈ kind.name.toList) => (plain_of_mem_name hc).1
  rw [hmap, List.map_id]

/-- And no two scenarios have one name. -/
theorem name_injective {a b : ScenarioKind} (h : a.name = b.name) :
    a = b := by
  cases a <;> cases b <;> first | rfl | exact absurd h (by decide)

theorem toList_normalName (s : String) :
    (normalName s).toList = (trimmed s.toList).map plain :=
  String.toList_ofList

theorem map_plain_eq_of_forall₂ {r : Char → Char → Prop}
    (hr : ∀ c d, r c d → plain c = plain d) {cs ds : List Char}
    (h : List.Forall₂ r cs ds) : cs.map plain = ds.map plain := by
  rw [← List.forall₂_eq_eq_eq, List.forall₂_map_left_iff,
    List.forall₂_map_right_iff]
  exact h.imp hr

theorem forall₂_varies_map (cs : List Char) :
    List.Forall₂ Varies cs (cs.map plain) := by
  rw [List.forall₂_map_right_iff, List.forall₂_same]
  exact fun c _ => varies_plain c

/-- A text is plainly the name of a scenario if it spells it. -/
theorem normalName_eq_iff : normalName s = kind.name ↔ Spells s kind := by
  rw [← String.toList_inj, toList_normalName]
  constructor
  · intro h
    refine ⟨trimmed s.toList, (isCore_trimmed s.toList).padded, ?_⟩
    rw [← h]
    exact forall₂_varies_map _
  · rintro ⟨core, ⟨left, right, hs, hleft, hright⟩, hcore⟩
    have hplain := map_plain_eq_of_forall₂ (fun _ _ => Varies.plain_eq) hcore
    rw [map_plain_name] at hplain
    -- what varies from a letter of a name is no blank either
    have hsolid : ∀ c ∈ core, isBlank c = false := by
      intro c hc
      have hmem := List.mem_map_of_mem (f := plain) hc
      rw [hplain] at hmem
      rw [← isBlank_plain, (plain_of_mem_name hmem).2]
    rw [hs, trimmed_of_isCore (isCore_of_noBlank hsolid hleft hright),
      hplain]

theorem trimmed_of_padded {core text : List Char} (h : Padded core text) :
    trimmed text = trimmed core := by
  obtain ⟨left, right, rfl, hleft, hright⟩ := h
  exact trimmed_of_isCore ((isCore_trimmed core).pad hleft hright)

/-- Texts that agree are made the same name. -/
theorem Agrees.normalName_eq (h : Agrees s t) :
    normalName s = normalName t := by
  obtain ⟨core, core', hs, ht, hcores⟩ := h
  have hplain : core.map plain = core'.map plain := by
    refine map_plain_eq_of_forall₂ (fun c d hcd => ?_) hcores
    rcases hcd with hcd | hcd
    · exact hcd.plain_eq
    · exact hcd.plain_eq.symm
  rw [← String.toList_inj, toList_normalName, toList_normalName,
    trimmed_of_padded hs, trimmed_of_padded ht,
    ← trimmed_map isBlank_plain, ← trimmed_map isBlank_plain, hplain]

-- ============================================================== reading

theorem find?_name_eq_some_iff {name : String} :
    all.find? (·.name == name) = some kind ↔ name = kind.name := by
  constructor
  · intro h
    have hname := List.find?_some h
    exact (eq_of_beq hname).symm
  · rintro rfl
    cases kind <;> rfl

/-- What is read as a scenario spells its name. -/
theorem ofName_eq_ok_iff : ofName s = .ok kind ↔ Spells s kind := by
  rw [← normalName_eq_iff, ← find?_name_eq_some_iff]
  unfold ofName
  cases all.find? (·.name == normalName s) with
  | none => simp
  | some found => simp

/-- What is refused spells none, and the refusal repeats it as it was given.
-/
theorem ofName_eq_error_iff {f : Failure} : ofName s = .error f
    ↔ f = .unknownScenario s ∧ ∀ kind, ¬Spells s kind := by
  simp only [← normalName_eq_iff, ← find?_name_eq_some_iff]
  unfold ofName
  cases all.find? (·.name == normalName s) with
  | none => simp [eq_comm]
  | some found => simp

/-- No text spells two. -/
theorem Spells.unique {a b : ScenarioKind} (ha : Spells s a)
    (hb : Spells s b) : a = b := by
  rw [← normalName_eq_iff] at ha hb
  exact name_injective (ha.symm.trans hb)

/-- A text is read as a scenario exactly if it spells the scenario's name
between blanks, and otherwise the failure tells the text as it was given.
It spells one name at most, and texts that agree are read as the same
scenario or are all of them rejected. -/
theorem ofName_reads (s : String) :
    (∀ kind, ofName s = .ok kind ↔ Spells s kind)
    ∧ (∀ f, ofName s = .error f
        ↔ f = .unknownScenario s ∧ ∀ kind, ¬Spells s kind)
    ∧ (∀ a b, Spells s a → Spells s b → a = b)
    ∧ ∀ t, Agrees s t →
      ∀ kind, ofName s = .ok kind ↔ ofName t = .ok kind := by
  refine ⟨fun _ => ofName_eq_ok_iff, fun _ => ofName_eq_error_iff,
    fun _ _ => Spells.unique, fun t h kind => ?_⟩
  rw [ofName_eq_ok_iff, ofName_eq_ok_iff, ← normalName_eq_iff,
    ← normalName_eq_iff, h.normalName_eq]

theorem ofName_reads_dashed :
    Spells "\u00a0Max-Data\n" .maxData
      ∧ Agrees "\u00a0Max-Data\n" "mAX_dATA"
      ∧ ofName "mAX_dATA" = .ok .maxData := by
  have hspells : Spells "\u00a0Max-Data\n" .maxData :=
    normalName_eq_iff.1 (by decide)
  have hagrees : Agrees "\u00a0Max-Data\n" "mAX_dATA" := by
    refine ⟨['M', 'a', 'x', '-', 'D', 'a', 't', 'a'], _,
      ⟨['\u00a0'], ['\n'], by decide, List.all_eq_true.1 rfl,
        List.all_eq_true.1 rfl⟩,
      ⟨[], [], (List.append_nil _).symm, by simp, by simp⟩, ?_⟩
    exact .cons (.inl (.capital rfl rfl)) <| .cons (.inl (.small rfl rfl)) <|
      .cons (.inl (.small rfl rfl)) <| .cons (.inl .dash) <|
      .cons (.inl (.capital rfl rfl)) <| .cons (.inl (.small rfl rfl)) <|
      .cons (.inl (.small rfl rfl)) <| .cons (.inl (.small rfl rfl)) .nil
  have hreads := ofName_reads "\u00a0Max-Data\n"
  exact ⟨hspells, hagrees,
    (hreads.2.2.2 _ hagrees .maxData).1 ((hreads.1 .maxData).2 hspells)⟩

-- Only letters of ASCII have another case: the first one here is a long s.
example : ofName "\u017fimple_relay"
    = .error (.unknownScenario "\u017fimple_relay") := by
  decide

end PairingHarness.ScenarioKind
