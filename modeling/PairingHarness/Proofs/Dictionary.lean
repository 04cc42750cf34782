/-
What a dictionary holds under a key.

A dictionary is known by its values (`ext_get?`): the order of its
entries and the lack of repetitions leave one way to write them down. An
insertion changes the value under one key (`get?_insert`), and of pairs
that are put in one after another the last one with a key counts
(`get?_insertAll`).

A dictionary is a sorted list, and the lemmas below are the only ones
that know it. Elsewhere a dictionary is what `get?` gives: proofs about
settings, launches and frames insert, look up and compare through
`get?_insert`, `get?_ofPairs` and `ext_get?`, so they would stay as they
are if it were kept in another way.
-/
import Mathlib.Data.List.Pairwise
import PairingHarness.Dictionary

namespace PairingHarness.Dictionary

-- ============================================================= insertion

/-- A look-up takes the first entry where that has the key, and goes on
otherwise. -/
theorem lookup_cons_eq (k : String) (e : String × String)
    (es : List (String × String)) :
    (e :: es).lookup k = if k = e.1 then some e.2 else es.lookup k := by
  by_cases hk : k = e.1
  · rw [if_pos hk, hk]
    exact List.lookup_cons_self
  · have hne : (k == e.1) = false := by simpa using hk
    rw [if_neg hk, List.lookup_cons, hne]

/-- An insertion into sorted entries decides what is found under its own key
and nothing else. The induction is on the entries in front of its place. -/
theorem lookup_insertEntry (key value k : String)
    (es : List (String × String)) :
    (insertEntry key value es).lookup k
      = if k = key then some value else es.lookup k := by
  induction es with
  | nil => exact lookup_cons_eq k (key, value) []
  | cons e rest ih =>
      unfold insertEntry
      by_cases hlt : key < e.1
      · rw [if_pos hlt, lookup_cons_eq]
      · rw [if_neg hlt]
        by_cases heq : key = e.1
        · rw [if_pos heq, lookup_cons_eq, lookup_cons_eq k e]
          by_cases hk : k = key
          · rw [if_pos hk, if_pos hk]
          · rw [if_neg hk, if_neg hk, if_neg (heq ▸ hk)]
        · rw [if_neg heq, lookup_cons_eq, lookup_cons_eq k e, ih]
          by_cases hk : k = e.1
          · -- the head keeps its place before the key inserted
            have hne : k ≠ key := fun h => heq (by rw [← h, hk])
            rw [if_pos hk, if_neg hne, if_pos hk]
          · rw [if_neg hk, if_neg hk]

/-- Of pairs that are chosen and given keys, the first that gets a key is
found under it. -/
theorem lookup_map_filter (p : String × String → Bool)
    (key : String × String → String) (es : List (String × String))
    (k : String) :
    ((es.filter p).map fun e => (key e, e.2)).lookup k
      = (es.find? fun e => p e && key e == k).map (·.2) := by
  induction es with
  | nil => rfl
  | cons e es ih =>
      by_cases hp : p e = true
      · rw [List.filter_cons_of_pos hp, List.map_cons, lookup_cons_eq]
        by_cases hk : k = key e
        · rw [if_pos hk, List.find?_cons_of_pos (by simp [hp, hk])]
          rfl
        · rw [if_neg hk, ih, List.find?_cons_of_neg]
          simpa [hp] using Ne.symm hk
      · rw [List.filter_cons_of_neg hp, ih, List.find?_cons_of_neg]
        simp [hp]

/-- An insertion changes what is under its key and nothing else. -/
theorem get?_insert (d : Dictionary) (key value k : String) :
    (d.insert key value).get? k
      = if k = key then some value else d.get? k :=
  lookup_insertEntry key value k d.entries

/-- Of pairs put in one after another the last one with a key counts,
and where there is none, what was there before. -/
theorem get?_insertAll (pairs : List (String × String)) (d : Dictionary)
    (k : String) :
    (d.insertAll pairs).get? k = (pairs.reverse.lookup k).or (d.get? k) := by
  induction pairs generalizing d with
  | nil => rfl
  | cons p rest ih =>
      show ((d.insert p.1 p.2).insertAll rest).get? k = _
      rw [ih, get?_insert, List.reverse_cons, List.lookup_append,
        lookup_cons_eq, Option.or_assoc]
      by_cases hk : k = p.1
      · rw [if_pos hk, if_pos hk]
        rfl
      · rw [if_neg hk, if_neg hk]
        rfl

/-- Of pairs that make a dictionary the last one with a key counts, so the
pairs are read from the end. -/
theorem get?_ofPairs (pairs : List (String × String)) (k : String) :
    (ofPairs pairs).get? k = pairs.reverse.lookup k := by
  unfold ofPairs
  rw [get?_insertAll]
  exact Option.or_none

-- ============================================================== equality

/-- The first entry under a key is as good as any where the keys say what
the values are. -/
theorem lookup_eq_some_iff_mem {es : List (String × String)}
    (h : ∀ a ∈ es, ∀ b ∈ es, a.1 = b.1 → a.2 = b.2) {k v : String} :
    es.lookup k = some v ↔ (k, v) ∈ es := by
  induction es with
  | nil => simp
  | cons x es ih =>
      have hrest := fun a ha b hb =>
        h a (List.mem_cons_of_mem _ ha) b (List.mem_cons_of_mem _ hb)
      rw [lookup_cons_eq, List.mem_cons]
      by_cases hk : k = x.1
      · rw [if_pos hk]
        constructor
        · intro hv
          cases hv
          exact Or.inl (by rw [hk])
        · rintro (hx | hmem)
          · rw [← hx]
          · rw [h x List.mem_cons_self (k, v)
              (List.mem_cons_of_mem _ hmem) hk.symm]
      · rw [if_neg hk, ih hrest]
        constructor
        · exact Or.inr
        · rintro (hx | hmem)
          · exact absurd (by rw [← hx]) hk
          · exact hmem

/-- Under one key there is one value. -/
private theorem functional_entries (d : Dictionary) :
    ∀ a ∈ d.entries, ∀ b ∈ d.entries, a.1 = b.1 → a.2 = b.2 := by
  have hne : d.entries.Pairwise fun a b => a.1 ≠ b.1 := by
    refine List.Pairwise.imp ?_ d.ordered
    intro a b hlt heq
    rw [heq] at hlt
    exact String.lt_irrefl b.1 hlt
  have : Std.Symm fun a b : String × String => a.1 ≠ b.1 :=
    ⟨fun _ _ h => h.symm⟩
  intro a ha b hb heq
  by_cases hab : a = b
  · rw [hab]
  · exact absurd heq (hne.forall ha hb hab)

/-- An entry is what is found under its key. -/
theorem mem_entries_iff {d : Dictionary} {k v : String} :
    (k, v) ∈ d.entries ↔ d.get? k = some v :=
  (lookup_eq_some_iff_mem d.functional_entries).symm

/-- The keys of a list of pairs are those of its dictionary. -/
theorem exists_mem_entries_ofPairs {pairs : List (String × String)}
    {k : String} :
    (∃ v, (k, v) ∈ (ofPairs pairs).entries) ↔ ∃ v, (k, v) ∈ pairs := by
  simp only [mem_entries_iff, get?_ofPairs]
  constructor
  · rintro ⟨v, hv⟩
    obtain ⟨before, after, hsplit, -⟩ := List.lookup_eq_some_iff.1 hv
    exact ⟨v, List.mem_reverse.1 (hsplit ▸ by simp)⟩
  · rintro ⟨v, hv⟩
    cases hk : pairs.reverse.lookup k with
    | some v' => exact ⟨v', rfl⟩
    | none =>
        have hne := List.lookup_eq_none_iff.1 hk (k, v)
          (List.mem_reverse.2 hv)
        simp at hne

/-- No entry stands twice, since the keys grow from one to the next. -/
private theorem nodup_entries (d : Dictionary) : d.entries.Nodup := by
  refine List.Pairwise.imp ?_ d.ordered
  intro a b hlt heq
  rw [heq] at hlt
  exact String.lt_irrefl b.1 hlt

/-- A dictionary is known by its values. -/
theorem ext_get? {d d' : Dictionary} (h : ∀ k, d.get? k = d'.get? k) :
    d = d' := by
  have hmem : ∀ e, e ∈ d.entries ↔ e ∈ d'.entries := by
    intro e
    rw [← lookup_eq_some_iff_mem d.functional_entries,
      ← lookup_eq_some_iff_mem d'.functional_entries]
    exact iff_of_eq (congrArg (· = some e.2) (h e.1))
  have hperm : d.entries.Perm d'.entries :=
    (List.perm_ext_iff_of_nodup d.nodup_entries d'.nodup_entries).2 hmem
  have hentries : d.entries = d'.entries :=
    List.Perm.eq_of_pairwise
      (fun a b _ _ hab hba => absurd hba (String.lt_asymm hab))
      d.ordered d'.ordered hperm
  cases d
  cases d'
  cases hentries
  rfl

end PairingHarness.Dictionary
