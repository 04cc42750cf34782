/-
Every value within bounds is written by some text.

The bounds (`Value.Within`) are those of an encoder: whole numbers of
sixty-four bits, distinct names in every object, and no more than a given
number of arrays and objects inside each other. A text for a value is
put together from texts for its parts (`exists_writes`): a character that
cannot stand for itself is escaped, a whole number is written in decimal,
and items are separated by commas without blanks.

The spelling is the one of `Json.escapedChar`, by which the service of a
rehearsal writes its frames as well. Doubles are left out of the bounds:
whether a numeral gives a certain double is a matter of rounding, and no
statement here needs one.
-/
import PairingHarness.Json.Escaped
import PairingHarness.Proofs.Json.Skip

namespace PairingHarness.Json

-- ================================================================ strings

/-- The characters that stand for themselves in a string. -/
def isPlain (c : Char) : Bool :=
  c ≠ '"' && c ≠ '\\' && 0x20 ≤ c.toNat

/-- Letters, digits and other plain characters stand for themselves. -/
theorem Spells.plain_of_all {t : List Char} (h : t.all isPlain = true) :
    Spells t t := by
  induction t with
  | nil => exact .nil
  | cons c t ih =>
      simp only [List.all_cons, isPlain, Bool.and_eq_true,
        decide_eq_true_eq] at h
      obtain ⟨⟨⟨hquote, hslash⟩, hcontrol⟩, ht⟩ := h
      exact .plain hquote hslash hcontrol (ih ht)

/-- A member whose name stands for itself, without blanks. -/
def Member.plain (name : String) (h : name.toList.all isPlain = true)
    (value : List Char) : Member :=
  ⟨⟨name.toList, .none, .none, value⟩, name, .plain_of_all h⟩

/-- Control characters have an escape of four digits. -/
theorem control_escape :
    ∀ n < 0x20, hexValue? '0' '0' (Nat.digitChar (n / 16))
      (Nat.digitChar (n % 16)) = some n := by
  decide

/-- A control character is spelt by four hexadecimal digits behind a mark.
-/
theorem Spells.control {c : Char} {s t : List Char} (hc : c.toNat < 0x20)
    (h : Spells s t) :
    Spells ('\\' :: 'u' :: '0' :: '0' :: Nat.digitChar (c.toNat / 16)
      :: Nat.digitChar (c.toNat % 16) :: s) (c :: t) := by
  have hvalue := control_escape c.toNat hc
  have hlead : isLead c.toNat = false := by
    simp only [isLead, Bool.and_eq_false_iff, decide_eq_false_iff_not]
    omega
  have htrail : isTrail c.toNat = false := by
    simp only [isTrail, Bool.and_eq_false_iff, decide_eq_false_iff_not]
    omega
  have hunit := Spells.unit hvalue hlead htrail h
  rw [Char.ofNat_toNat] at hunit
  exact hunit

/-- How control characters are written that have no letter. -/
theorem control_digits :
    ∀ n < 0x20, List.replicate (4 - (Nat.toDigits 16 n).length) '0'
        ++ Nat.toDigits 16 n
      = ['0', '0', Nat.digitChar (n / 16), Nat.digitChar (n % 16)] := by
  decide

/-- Every character has a spelling: itself, a short escape or a numeric one.
-/
theorem spells_escapedChar (c : Char) {source cs : List Char}
    (h : Spells source cs) :
    Spells (escapedChar c ++ source) (c :: cs) := by
  unfold escapedChar
  by_cases hmark : c = '"' ∨ c = '\\'
  · rcases hmark with rfl | rfl
    · exact .escape rfl h
    · exact .escape rfl h
  obtain ⟨hquote, hslash⟩ := not_or.1 hmark
  simp only [hquote, hslash, decide_false, Bool.or_self,
    Bool.false_eq_true, if_false]
  -- the control characters with a short form; the others are written by
  -- number, and all else as it is
  by_cases hnewline : c = '\n'
  · rw [hnewline]
    exact .escape rfl h
  by_cases hreturn : c = '\x0d'
  · rw [hreturn]
    exact .escape rfl h
  by_cases htab : c = '\t'
  · rw [htab]
    exact .escape rfl h
  by_cases hback : c = '\x08'
  · rw [hback]
    exact .escape rfl h
  by_cases hfeed : c = '\x0c'
  · rw [hfeed]
    exact .escape rfl h
  simp only [hnewline, hreturn, htab, hback, hfeed, if_false]
  by_cases hcontrol : c.toNat < 0x20
  · rw [if_pos hcontrol, List.append_assoc ['\\', 'u'],
      control_digits _ hcontrol]
    exact .control hcontrol h
  · rw [if_neg hcontrol]
    exact .plain hquote hslash (Nat.not_lt.1 hcontrol) h

/-- And so has every text, one character after another. -/
theorem spells_escaped (cs : List Char) :
    Spells (cs.flatMap escapedChar) cs := by
  induction cs with
  | nil => exact .nil
  | cons c cs ih =>
      rw [List.flatMap_cons]
      exact spells_escapedChar c ih

/-- Every text is written by some string. -/
theorem exists_spells (t : List Char) : ∃ source, Spells source t :=
  ⟨_, spells_escaped t⟩

-- ================================================================ numbers

/-- The digits that numerals are written with are digits to the reader, of
the same value. -/
theorem digitChar_digit :
    ∀ d < 10, isDigit (Nat.digitChar d) = true
      ∧ digitValue (Nat.digitChar d) = d := by
  decide

/-- Every number is written in decimal. -/
theorem exists_digits (n : Nat) :
    ∃ ds : Digits, ds.value = n
      ∧ (ds.chars.head? = some '0' → ds.chars = ['0']) := by
  -- the last digit comes off by division, so the induction is on all smaller
  -- numbers
  induction n using Nat.strongRecOn with
  | ind n ih =>
      obtain ⟨hc, hd⟩ := digitChar_digit (n % 10) (Nat.mod_lt n (by decide))
      generalize Nat.digitChar (n % 10) = c at hc hd
      by_cases hn : n < 10
      · rw [Nat.mod_eq_of_lt hn] at hd
        refine ⟨⟨[c], List.cons_ne_nil _ _, List.forall_mem_singleton.2 hc⟩,
          ?_, fun h => congrArg (fun c => [c]) (Option.some.inj h)⟩
        show 0 * 10 + digitValue c = n
        rw [hd, Nat.zero_mul, Nat.zero_add]
      · obtain ⟨ds, hvalue, hfirst⟩ := ih (n / 10) (by omega)
        refine ⟨⟨ds.chars ++ [c], by simp, ?_⟩, ?_, fun h => ?_⟩
        · intro d hd
          rcases List.mem_append.1 hd with hd | hd
          · exact ds.digits d hd
          · exact List.mem_singleton.1 hd ▸ hc
        · show appendDigits 0 (ds.chars ++ [c]) = n
          unfold appendDigits
          rw [List.foldl_append]
          show ds.value * 10 + digitValue c = n
          rw [hvalue, hd]
          omega
        · -- only zero begins with a zero
          exfalso
          obtain ⟨d, cs, hds, -⟩ := ds.exists_cons
          have hhead : (ds.chars ++ [c]).head? = some '0' := h
          rw [hds] at hhead
          have hhead : ds.chars.head? = some '0' := by
            rw [hds]
            exact hhead
          rw [Digits.value, hfirst hhead] at hvalue
          have : n / 10 = 0 := hvalue.symm
          omega

/-- Every whole number of sixty-four bits is written by some numeral. -/
theorem exists_numeral {i : Int} (hmin : -(Nat.pow 2 63 : Nat) ≤ i)
    (hmax : i ≤ Decimal.maxWord64) :
    ∃ n : Numeral, n.value? = some (.integer i) := by
  obtain ⟨ds, hvalue, hfirst⟩ := exists_digits i.natAbs
  unfold Numeral.value? Numeral.integer?
  by_cases hneg : i < 0
  · refine ⟨⟨true, ds, hfirst, none, none⟩, ?_⟩
    have hbound : ds.value ≠ 0 ∧ ds.value ≤ Nat.pow 2 63 := by
      rw [hvalue]
      omega
    have hi : -(ds.value : Int) = i := by
      rw [hvalue]
      omega
    simp only [reduceIte, if_pos hbound, hi]
  · refine ⟨⟨false, ds, hfirst, none, none⟩, ?_⟩
    have hbound : ds.value ≤ Decimal.maxWord64 := by
      rw [hvalue]
      omega
    have hi : (ds.value : Int) = i := by
      rw [hvalue]
      omega
    simp only [Bool.false_eq_true, reduceIte, if_pos hbound, hi]

-- ================================================================= values

/-- Items are separated by commas. -/
theorem exists_separated (closer : Char) (first : Bool)
    (items : List (List Char)) : ∃ t, Separated closer first items t := by
  induction items generalizing first with
  | nil => exact ⟨_, .close first .none⟩
  | cons e items ih =>
      obtain ⟨t, ht⟩ := ih false
      cases first with
      | true => exact ⟨_, .item (.first .none) ht⟩
      | false => exact ⟨_, .item (.next .none .none) ht⟩

/-- The bounds of an encoder. -/
inductive Value.Within : (depth : Nat) → Value → Prop where
  | null (depth : Nat) : Within depth .null
  | boolean (depth : Nat) (b : Bool) : Within depth (.boolean b)
  | integer (depth : Nat) {i : Int} (hmin : -(Nat.pow 2 63 : Nat) ≤ i)
      (hmax : i ≤ Decimal.maxWord64) : Within depth (.number (.integer i))
  | text (depth : Nat) (t : String) : Within depth (.text t)
  | array {depth : Nat} {items : List Value}
      (h : ∀ v ∈ items, Within depth v) : Within (depth + 1) (.array items)
  | object {depth : Nat} {ms : List (String × Value)}
      (hnames : (ms.map Prod.fst).Nodup) (h : ∀ m ∈ ms, Within depth m.2) :
      Within (depth + 1) (.object ms)

/-- Members of distinct names are all kept. -/
theorem gather_of_nodup {α : Type} {ms : List (String × α)}
    (h : (ms.map Prod.fst).Nodup) : gather ms = ms := by
  induction ms with
  | nil => rfl
  | cons m ms ih =>
      rw [List.map_cons, List.nodup_cons] at h
      have hnew : ms.any (fun n => n.1 == m.1) = false := by
        rw [List.any_eq_false]
        intro n hn heq
        exact h.1 (List.mem_map.2 ⟨n, hn, eq_of_beq heq⟩)
      show addMember m.1 m.2 (gather ms) = _
      rw [ih h.2, addMember, hnew]
      rfl

/-- Every value within the bounds is written by some text. -/
theorem exists_writes {depth : Nat} {v : Value} (h : v.Within depth) :
    ∃ e, Writes depth e v := by
  induction h with
  | null depth => exact ⟨_, .null depth⟩
  | boolean depth b =>
      cases b with
      | true => exact ⟨_, .yes depth⟩
      | false => exact ⟨_, .no depth⟩
  | integer depth hmin hmax =>
      obtain ⟨n, hn⟩ := exists_numeral hmin hmax
      exact ⟨_, .number depth hn⟩
  | text depth t =>
      obtain ⟨source, hsource⟩ := exists_spells t.toList
      exact ⟨_, .text depth hsource⟩
  | @array depth items _ ih =>
      obtain ⟨written, rfl, hwritten⟩ := exists_map_eq
        (f := Prod.snd) (p := fun i => Writes depth i.1 i.2)
        fun v hv => by
          obtain ⟨e, he⟩ := ih v hv
          exact ⟨(e, v), he, rfl⟩
      obtain ⟨t, ht⟩ := exists_separated ']' true (written.map Prod.fst)
      exact ⟨_, .array ht hwritten⟩
  | @object depth ms hnames _ ih =>
      obtain ⟨written, hms, hwritten⟩ := exists_map_eq
        (f := fun m : Member × Value => (m.1.name, m.2))
        (p := fun m => Writes depth m.1.value m.2)
        fun m hm => by
          obtain ⟨e, he⟩ := ih m hm
          obtain ⟨spelling, hspells⟩ := exists_spells m.1.toList
          exact ⟨(⟨⟨spelling, .none, .none, e⟩, m.1, hspells⟩, m.2), he, rfl⟩
      obtain ⟨t, ht⟩ := exists_separated '\x7d' true
        (written.map fun m => m.1.chars)
      -- the names are all different, so gathering the members changes nothing
      have h := Writes.object ht hwritten
      rw [hms, gather_of_nodup hnames] at h
      exact ⟨_, h⟩

end PairingHarness.Json
