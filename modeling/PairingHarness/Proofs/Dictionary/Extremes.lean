/-
The greatest and the least key of a kind.

Keys are compared by their bytes, and the entries stand in that order. So
the last entry whose key is of a kind has the greatest of them, and its
value is the one that prevails (`map_find?_reverse_eq_some_iff`). Which
one prevails depends on nothing but what is held under the keys of the
kind (`prevails_congr`). A dictionary laid on top of another holds what it
holds itself, and elsewhere what the other does (`get?_onTop`).

This is what a launch makes of overrides whose keys differ only in their
case: they name the same variable, they are put in by the order of their
keys, and the last one prevails. So which of two spellings wins is
decided by their bytes and not by who gave them first, and a proof about
it needs no more than the greatest key of a kind.
-/
import PairingHarness.Proofs.Dictionary
import PairingHarness.Proofs.Text.ByteOrder

namespace PairingHarness.Dictionary

open Text.Utf8 (encode encode_le_encode_iff)

variable {d d' : Dictionary} {kind : String → Prop} {key value : String}

-- =============================================================== keys

/-- Something is held under the key. -/
def IsKey (d : Dictionary) (key : String) : Prop :=
  ∃ value, d.get? key = some value

/-- The key is of the kind, and no key of the kind has greater bytes. -/
structure Greatest (d : Dictionary) (kind : String → Prop)
    (key : String) : Prop where
  isKey : d.IsKey key
  isOfKind : kind key
  le : ∀ k, d.IsKey k → kind k → encode k ≤ encode key

/-- The key is of the kind, and no key of the kind has lesser bytes. -/
structure Least (d : Dictionary) (kind : String → Prop)
    (key : String) : Prop where
  isKey : d.IsKey key
  isOfKind : kind key
  le : ∀ k, d.IsKey k → kind k → encode key ≤ encode k

/-- The value is held under the greatest key of the kind. -/
def Prevails (d : Dictionary) (kind : String → Prop)
    (value : String) : Prop :=
  ∃ key, d.Greatest kind key ∧ d.get? key = some value

theorem isKey_of_mem {e : String × String} (h : e ∈ d.entries) :
    d.IsKey e.1 :=
  ⟨e.2, mem_entries_iff.1 h⟩

/-- A key is one under which an entry stands. -/
theorem isKey_iff : d.IsKey key ↔ ∃ e ∈ d.entries, e.1 = key := by
  constructor
  · rintro ⟨v, hv⟩
    exact ⟨(key, v), mem_entries_iff.2 hv, rfl⟩
  · rintro ⟨e, he, rfl⟩
    exact isKey_of_mem he

/-- What is true of all keys is true of all entries, and the other way
round. -/
theorem forall_isKey_iff :
    (∀ key, d.IsKey key → kind key) ↔ ∀ e ∈ d.entries, kind e.1 := by
  simp only [isKey_iff, forall_exists_index, and_imp,
    forall_apply_eq_imp_iff₂]

/-- There is one greatest key. -/
theorem Greatest.unique {k : String} (h : d.Greatest kind key)
    (h' : d.Greatest kind k) : key = k :=
  String.le_antisymm
    (encode_le_encode_iff.1 (h'.le key h.isKey h.isOfKind))
    (encode_le_encode_iff.1 (h.le k h'.isKey h'.isOfKind))

-- ================================================= the value it holds

/-- The last entry whose key is of a kind has the greatest of them. -/
theorem greatest_of_find?_reverse {p : String → Bool}
    {e : String × String}
    (h : (d.entries.reverse.find? fun x => p x.1) = some e) :
    e ∈ d.entries ∧ d.Greatest (p · = true) e.1 := by
  obtain ⟨he, later, earlier, hsplit, hlater⟩ :=
    List.find?_eq_some_iff_append.1 h
  have hmem : e ∈ d.entries := by
    rw [← List.mem_reverse, hsplit]
    simp
  have hordered := List.pairwise_reverse.2 d.ordered
  rw [hsplit] at hordered
  obtain ⟨-, hordered, -⟩ := List.pairwise_append.1 hordered
  refine ⟨hmem, isKey_of_mem hmem, he, fun k hk hkind => ?_⟩
  obtain ⟨x, hx, rfl⟩ := isKey_iff.1 hk
  rw [← List.mem_reverse, hsplit] at hx
  rw [encode_le_encode_iff]
  rcases List.mem_append.1 hx with hx | hx
  · have hnot := hlater x hx
    simp [hkind] at hnot
  · rcases List.mem_cons.1 hx with rfl | hx
    · exact String.le_refl _
    · exact Std.le_of_lt ((List.pairwise_cons.1 hordered).1 x hx)

/-- What the last entry of a kind holds is what prevails. -/
theorem map_find?_reverse_eq_some_iff {p : String → Bool} :
    (d.entries.reverse.find? fun x => p x.1).map (·.2) = some value
      ↔ d.Prevails (p · = true) value := by
  rw [Option.map_eq_some_iff]
  constructor
  · rintro ⟨e, hfind, rfl⟩
    obtain ⟨hmem, hgreatest⟩ := greatest_of_find?_reverse hfind
    exact ⟨e.1, hgreatest, mem_entries_iff.1 hmem⟩
  · rintro ⟨key, hgreatest, hvalue⟩
    cases hfind : d.entries.reverse.find? fun x => p x.1 with
    | none =>
        have hmem := List.mem_reverse.2 (mem_entries_iff.2 hvalue)
        exact absurd hgreatest.isOfKind
          (List.find?_eq_none.1 hfind (key, value) hmem)
    | some e =>
        obtain ⟨hmem, hgreatest'⟩ := greatest_of_find?_reverse hfind
        refine ⟨e, rfl, ?_⟩
        have hheld := mem_entries_iff.1 hmem
        rw [hgreatest'.unique hgreatest, hvalue] at hheld
        exact (Option.some.inj hheld).symm

/-- Nothing is there where no key is of the kind. -/
theorem map_find?_reverse_eq_none_iff {p : String → Bool} :
    (d.entries.reverse.find? fun x => p x.1).map (·.2) = none
      ↔ ∀ key, d.IsKey key → ¬p key = true := by
  rw [Option.map_eq_none_iff, List.find?_eq_none, forall_isKey_iff]
  simp only [List.mem_reverse]

/-- Dictionaries that hold the same under the keys of a kind let the same
value prevail. -/
theorem prevails_congr
    (h : ∀ key, kind key → d'.get? key = d.get? key) :
    d'.Prevails kind value ↔ d.Prevails kind value := by
  have hkeys : ∀ key, kind key → (d'.IsKey key ↔ d.IsKey key) := by
    intro key hkey
    unfold IsKey
    rw [h key hkey]
  unfold Prevails
  refine exists_congr fun key => ?_
  constructor
  · rintro ⟨⟨hkey, hkind, hle⟩, hvalue⟩
    refine ⟨⟨(hkeys key hkind).1 hkey, hkind, fun k hk hkind' =>
      hle k ((hkeys k hkind').2 hk) hkind'⟩, ?_⟩
    rwa [← h key hkind]
  · rintro ⟨⟨hkey, hkind, hle⟩, hvalue⟩
    refine ⟨⟨(hkeys key hkind).2 hkey, hkind, fun k hk hkind' =>
      hle k ((hkeys k hkind').1 hk) hkind'⟩, ?_⟩
    rwa [h key hkind]

-- ============================================= one laid on the other

/-- A dictionary with another laid on top, whose values win. -/
def onTop (d top : Dictionary) : Dictionary :=
  d.insertAll top.entries

/-- Under a key is what is on top, or else what is below. -/
theorem get?_onTop (d top : Dictionary) (key : String) :
    (d.onTop top).get? key = (top.get? key).or (d.get? key) := by
  have hlast : top.entries.reverse.lookup key = top.get? key := by
    refine Option.ext fun v => ?_
    rw [← mem_entries_iff, ← List.mem_reverse]
    refine lookup_eq_some_iff_mem fun a ha b hb hab => ?_
    have hheld := mem_entries_iff.1 (List.mem_reverse.1 ha)
    rw [hab, mem_entries_iff.1 (List.mem_reverse.1 hb)] at hheld
    exact (Option.some.inj hheld).symm
  unfold onTop
  rw [get?_insertAll, hlast]

/-- The keys of a dictionary on top of another are the keys of both. -/
theorem isKey_onTop_iff {top : Dictionary} :
    (d.onTop top).IsKey key ↔ top.IsKey key ∨ d.IsKey key := by
  unfold IsKey
  rw [get?_onTop]
  cases top.get? key with
  | some v => simp
  | none => simp

end PairingHarness.Dictionary
