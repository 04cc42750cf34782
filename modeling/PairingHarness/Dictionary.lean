/-
Dictionaries from text to text, held in the order of their keys.

Every key occurs once, and the entries stand in increasing order of the keys
by code point, which is also the order of their UTF-8 bytes. Putting a value
under a key that is there replaces it. The order is part of the type, so a
walk over the entries meets the least key first.
-/

namespace PairingHarness

/-- Texts under distinct keys, least key first. -/
structure Dictionary where
  entries : List (String × String)
  /-- Every key is below the keys after it. -/
  ordered : entries.Pairwise fun a b => a.1 < b.1

namespace Dictionary

-- ============================================================= inserting

/-- The entries with a value put under a key, in place of an earlier one. -/
def insertEntry (key value : String) :
    List (String × String) → List (String × String)
  | [] => [(key, value)]
  | e :: rest =>
    if key < e.1 then (key, value) :: e :: rest
    else if key = e.1 then (key, value) :: rest
    else e :: insertEntry key value rest

/-- What stands after an insertion is the new entry or was there before. -/
theorem mem_insertEntry {key value : String} {es : List (String × String)}
    {e : String × String}
    (h : e ∈ insertEntry key value es) : e = (key, value) ∨ e ∈ es := by
  induction es with
  | nil => simpa [insertEntry] using h
  | cons d rest ih =>
    unfold insertEntry at h
    split at h
    · simpa using h
    · split at h
      · rcases List.mem_cons.1 h with h | h
        · exact .inl h
        · exact .inr (List.mem_cons_of_mem _ h)
      · rcases List.mem_cons.1 h with h | h
        · exact .inr (h ▸ List.mem_cons_self)
        · exact (ih h).imp id (List.mem_cons_of_mem _)

/-- An insertion keeps the order. -/
theorem pairwise_insertEntry (key value : String) {es : List (String × String)}
    (h : es.Pairwise fun a b => a.1 < b.1) :
    (insertEntry key value es).Pairwise fun a b => a.1 < b.1 := by
  induction es with
  | nil => simp [insertEntry]
  | cons d rest ih =>
    obtain ⟨hd, hrest⟩ := List.pairwise_cons.1 h
    unfold insertEntry
    split
    · next hlt =>
      refine List.pairwise_cons.2 ⟨fun e he => ?_, h⟩
      rcases List.mem_cons.1 he with rfl | he
      · exact hlt
      · exact String.lt_trans hlt (hd e he)
    · next hge =>
      split
      · next heq =>
        exact List.pairwise_cons.2 ⟨fun e he => heq ▸ hd e he, hrest⟩
      · next hne =>
        refine List.pairwise_cons.2 ⟨fun e he => ?_, ih hrest⟩
        rcases mem_insertEntry he with rfl | he
        · exact Std.lt_of_le_of_ne (String.not_lt.1 hge) (Ne.symm hne)
        · exact hd e he

-- ============================================================ operations

def empty : Dictionary :=
  ⟨[], List.Pairwise.nil⟩

/-- The dictionary with a value put under a key. -/
def insert (d : Dictionary) (key value : String) : Dictionary :=
  ⟨insertEntry key value d.entries, pairwise_insertEntry key value d.ordered⟩

/-- Puts pairs in one after another; a later equal key replaces an earlier
one. -/
def insertAll (d : Dictionary) (pairs : List (String × String)) : Dictionary :=
  pairs.foldl (fun d p => d.insert p.1 p.2) d

def ofPairs (pairs : List (String × String)) : Dictionary :=
  empty.insertAll pairs

def get? (d : Dictionary) (key : String) : Option String :=
  d.entries.lookup key

end Dictionary

end PairingHarness
