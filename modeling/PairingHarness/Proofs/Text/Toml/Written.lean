/-
What is written is read back.

A value in a form that has no escapes stands there as it is, which the
form can hold (`Fits`, `fits_of_formOf`). Between double quotes every
character can be written, with an escape where it needs one
(`item_escaped`). In both cases the quotes that came just before are
carried along, up to the next character that is none
(`body_of_fits`, `body_basicLines`). So every value is read back from the
form in which it is written (`quoted_written`), and keys with their
values, each on lines of their own, from the text of all of them
(`document_entries_iff`).

Which form a value is written in is decided by what is in it: quotes,
line breaks, a backslash. The choice is the writer's, and the proof goes
by what each form can hold and not by how it is chosen, so a change of
that choice is a change of `fits_of_formOf` alone.
-/
import PairingHarness.Proofs.Text.Toml.Reading

namespace PairingHarness.Text.Toml

variable {f : Form} {c : Char} {cs r s t : List Char} {k : Nat}

-- =============================================================== items

/-- A character that needs no escape may stand in a string as it is. -/
theorem isRaw_of_plain (h : needsEscape c = false) (hc : c ≠ '\n') :
    isRaw c = true := by
  unfold needsEscape at h
  unfold isRaw
  by_cases htab : c = '\t'
  · simp [htab]
  · simp [htab, hc] at h ⊢
    omega

theorem hexDigit?_hexDigit : ∀ n < 16, Json.hexDigit? (hexDigit n) = some n := by
  decide

/-- A control character is written by four digits that are read back. -/
theorem hexNumber?_code {n : Nat} (hn : n < 256) :
    hexNumber? ['0', '0', hexDigit (n / 16), hexDigit (n % 16)] = some n := by
  have hzero : Json.hexDigit? '0' = some 0 := rfl
  have hhigh := hexDigit?_hexDigit (n / 16) (by omega)
  have hlow := hexDigit?_hexDigit (n % 16) (by omega)
  simp only [hexNumber?, List.foldlM_cons, List.foldlM_nil, hzero, hhigh,
    hlow]
  simp
  omega

theorem Item.letter {e : Char} (hf : f.hasEscapes = true)
    (h : escape? e = some c) (r : List Char) :
    Item f ('\\' :: e :: r) [c] r :=
  .escape hf (.letter h)

/-- A character other than a double quote or a line break, as it is
written between double quotes. -/
theorem item_escaped (hf : f.hasEscapes = true) (hquote : c ≠ '"')
    (hbreak : c ≠ '\n') (r : List Char) : Item f (escaped c ++ r) [c] r := by
  unfold escaped
  split
  · next hc => subst hc; exact .letter hf rfl r
  split
  · next hc => subst hc; exact .letter hf rfl r
  split
  · next hc => subst hc; exact .letter hf rfl r
  split
  · next hc => subst hc; exact .letter hf rfl r
  split
  · next hc => subst hc; exact .letter hf rfl r
  split
  · next hneeds =>
      have hlt : c.toNat < 0x80 := by
        simp [needsEscape] at hneeds
        omega
      have hescape : Escape ('u' :: (['0', '0', hexDigit (c.toNat / 16),
          hexDigit (c.toNat % 16)] ++ r)) (Char.ofNat c.toNat) r :=
        .number rfl (hexNumber?_code (by omega)) (.inl (by omega))
      rw [Char.ofNat_toNat] at hescape
      exact .escape hf hescape
  · next hslash _ _ _ _ hneeds =>
      have hraw := isRaw_of_plain (Bool.eq_false_iff.2 hneeds) hbreak
      refine .raw hraw ?_ fun _ => hslash
      cases f <;> first | exact hquote | cases hf

-- ============================================================== bodies

theorem Body.cons {s' : List Char} {c : Char} {u : List Char}
    (hitem : Item f s [c] s') (h : Body f s' u r) : Body f s (c :: u) r :=
  .item (k := 0) (Nat.zero_le _) hitem h

theorem Body.nil (f : Form) (r : List Char) :
    Body f (f.run (f.limit + 1) ++ r) [] r := by
  have h := Body.close (f := f) (r := r) (Nat.zero_le f.limit)
  rwa [Nat.zero_add] at h

/-- One more quote in a row. -/
theorem Form.run_succ_append (f : Form) (k : Nat) (s : List Char) :
    f.run (k + 1) ++ s = f.run k ++ f.quote :: s := by
  simp [run, List.replicate_succ']

/-- A value between one double quote on either side. -/
theorem body_basic (cs r : List Char) :
    Body .basic (basicBody cs ++ '"' :: r) cs r := by
  induction cs with
  | nil => exact .nil .basic r
  | cons c cs ih =>
      rw [basicBody, List.flatMap_cons, ← basicBody, List.append_assoc]
      refine .cons ?_ ih
      split
      · next hc => subst hc; exact .letter rfl rfl _
      split
      · next hc => subst hc; exact .letter rfl rfl _
      · exact item_escaped rfl ‹_› ‹_› _

/-- A value between three double quotes on either side, with some quotes
in front of it. -/
theorem body_basicLines (cs r : List Char) (hk : k ≤ 2) :
    Body .basicLines (Form.run .basicLines k
        ++ (basicLinesBody k cs ++ (Form.run .basicLines 3 ++ r)))
      (Form.run .basicLines k ++ cs) r := by
  have hlimit : Form.limit .basicLines = 2 := rfl
  induction cs generalizing k with
  | nil =>
      rw [basicLinesBody, List.nil_append, List.append_nil,
        ← List.append_assoc, Form.run_add]
      exact .close hk
  | cons c cs ih =>
      unfold basicLinesBody
      split
      · next hc =>
          subst hc
          split
          · exact .item hk (.letter rfl rfl _) (ih (Nat.zero_le 2))
          · have hnext := ih (k := k + 1) (by omega)
            rw [Form.run_succ_append _ k, Form.run_succ_append _ k] at hnext
            exact hnext
      split
      · next hc =>
          subst hc
          exact .item hk (.lineBreak rfl .lf) (ih (Nat.zero_le 2))
      · rw [List.append_assoc]
        exact .item hk (item_escaped rfl ‹_› ‹_› _) (ih (Nat.zero_le 2))

/-- What a form without escapes can hold: no characters that need one, no
line breaks unless it has several lines, and no more quotes in a row than
stand for themselves. -/
structure Fits (f : Form) (cs : List Char) : Prop where
  plain : ∀ c ∈ cs, needsEscape c = false
  lines : '\n' ∈ cs → f.hasLines = true
  quotes : hasRun f.limit f.quote 0 cs = false

/-- Where no run of quotes is too long, the ones seen so far are not. -/
theorem le_of_hasRun {limit seen : Nat}
    (h : hasRun limit c seen cs = false) : seen ≤ limit := by
  induction cs generalizing seen with
  | nil => simpa [hasRun] using h
  | cons d cs ih =>
      unfold hasRun at h
      split at h
      · have := ih h
        omega
      · simp only [Bool.or_eq_false_iff, decide_eq_false_iff_not] at h
        omega

theorem hasRun_of_notMem {limit seen : Nat} (h : c ∉ cs)
    (hseen : seen ≤ limit) : hasRun limit c seen cs = false := by
  induction cs generalizing seen with
  | nil => simpa [hasRun] using hseen
  | cons d cs ih =>
      rw [List.mem_cons, not_or] at h
      rw [hasRun, if_neg (Ne.symm h.1), ih h.2 (Nat.zero_le limit)]
      simpa using hseen

/-- A value as it is, with some quotes in front of it. -/
theorem body_of_fits (hf : f.hasEscapes = false)
    (hplain : ∀ c ∈ cs, needsEscape c = false)
    (hlines : '\n' ∈ cs → f.hasLines = true)
    (hquotes : hasRun f.limit f.quote k cs = false) (r : List Char) :
    Body f (f.run k ++ (cs ++ (f.run (f.limit + 1) ++ r)))
      (f.run k ++ cs) r := by
  have hk := le_of_hasRun hquotes
  -- on the text, with the quotes just before it counted; a run of them stays
  -- within what the form allows
  induction cs generalizing k with
  | nil =>
      rw [List.nil_append, List.append_nil, ← List.append_assoc,
        Form.run_add]
      exact .close hk
  | cons c cs ih =>
      rw [List.forall_mem_cons] at hplain
      have hrest := fun h => hlines (List.mem_cons_of_mem c h)
      unfold hasRun at hquotes
      split at hquotes
      · next hc =>
          have hnext := ih hplain.2 hrest hquotes (le_of_hasRun hquotes)
          rw [Form.run_succ_append _ k, Form.run_succ_append _ k,
            ← hc] at hnext
          exact hnext
      · next hc =>
          rw [Bool.or_eq_false_iff] at hquotes
          have hnext := ih hplain.2 hrest hquotes.2 (Nat.zero_le _)
          refine .item hk (t := [c]) ?_ hnext
          by_cases hbreak : c = '\n'
          · subst hbreak
            exact .lineBreak (hlines (List.mem_cons_self ..)) .lf
          · refine .raw (isRaw_of_plain hplain.1 hbreak) hc fun h => ?_
            rw [hf] at h
            cases h

/-- The form that is taken can hold the value. -/
theorem fits_of_formOf (h : formOf cs = f) (hf : f.hasEscapes = false) :
    Fits f cs := by
  unfold formOf at h
  simp only at h
  split at h
  · subst h; cases hf
  split at h
  · next hfits =>
      subst h
      simp only [Bool.and_eq_true, Bool.not_eq_true', List.any_eq_false,
        List.contains_eq_mem, decide_eq_false_iff_not,
        Bool.not_eq_true] at hfits
      obtain ⟨⟨hplain, hquote⟩, hbreak⟩ := hfits
      exact ⟨hplain, fun h => absurd h hbreak,
        hasRun_of_notMem hquote (Nat.zero_le _)⟩
  split at h
  · subst h; cases hf
  split at h
  · next hfits =>
      subst h
      simp only [Bool.and_eq_true, Bool.not_eq_true', List.any_eq_false,
        Bool.not_eq_true] at hfits
      exact ⟨hfits.1, fun _ => rfl, hfits.2⟩
  split at h
  · subst h; cases hf
  · subst h; cases hf

-- ============================================================= strings

/-- A line break at the front of a body is one of the text. -/
theorem Body.stops_isLineEnd (h : Body f s t r) (ht : '\n' ∉ t) :
    Stops isLineEnd s := by
  have hquote : isLineEnd f.quote = false := by cases f <;> rfl
  have hrun : ∀ {k s}, Stops isLineEnd s →
      Stops isLineEnd (f.run k ++ s) := by
    intro k s hs
    cases k with
    | zero => exact hs
    | succ k => exact stops_cons.2 hquote
  cases h with
  | @close k r =>
      exact (Form.run_succ_append f (k + f.limit) r).symm
        ▸ hrun (stops_cons.2 hquote)
  | item _ hitem _ =>
      refine hrun ?_
      cases hitem with
      | raw hraw => exact stops_cons.2 (isLineEnd_of_isRaw hraw)
      | lineBreak _ hb => cases hb <;> simp at ht
      | escape => exact stops_cons.2 rfl
      | fold => exact stops_cons.2 rfl

/-- A value that can have several lines, behind a line break if it has
them. -/
theorem quoted_lineStart (hf : f.hasLines = true)
    (hbody : Body f s cs r) :
    Quoted f (f.run (f.limit + 1) ++ (lineStart cs ++ s)) cs r := by
  unfold lineStart
  split
  · exact .opened hf .lf hbody
  · next hbreak =>
      rw [List.contains_eq_mem, decide_eq_true_iff] at hbreak
      exact .flush (fun _ => hbody.stops_isLineEnd hbreak) hbody

/-- A value is read back from a form that can hold it. -/
theorem quoted_written (hfits : f.hasEscapes = false → Fits f cs)
    (r : List Char) : Quoted f (written cs f ++ r) cs r := by
  have hraw : f.hasEscapes = false →
      Body f (cs ++ (f.run (f.limit + 1) ++ r)) cs r := fun hf =>
    have h := hfits hf
    body_of_fits hf h.plain h.lines h.quotes r
  cases f with
  | basic =>
      rw [written, List.append_assoc, List.append_assoc]
      exact .flush (fun h => by cases h) (body_basic cs r)
  | literal =>
      rw [written, List.append_assoc, List.append_assoc]
      exact .flush (fun h => by cases h) (hraw rfl)
  | basicLines =>
      rw [written, List.append_assoc, List.append_assoc, List.append_assoc]
      exact quoted_lineStart rfl (body_basicLines cs r (Nat.zero_le 2))
  | literalLines =>
      rw [written, List.append_assoc, List.append_assoc, List.append_assoc]
      exact quoted_lineStart rfl (hraw rfl)

/-- Every value is read back from the form in which it is written. -/
theorem quoted_string (s : String) (r : List Char) :
    Quoted (formOf s.toList) ((string s).toList ++ r) s.toList r := by
  rw [string, String.toList_ofList]
  exact quoted_written (fits_of_formOf rfl) r

-- None of the forms can hold this one as it is.
example : string "\x27\x27\x27\n\"\"\""
    = "\"\"\"\n\x27\x27\x27\n\"\"\\\"\"\"\"" := by
  decide

-- ============================================================= entries

/-- A key that can be written without quotes. -/
structure IsBareKey (key : String) : Prop where
  nonempty : key.toList ≠ []
  all : key.toList.all isBare = true

variable {key : String} {es : List (String × String)}
  {xs : List Statement} {look : String → Option String}

/-- A key with its value, in front of the rest of a document. -/
theorem document_written_iff (hkey : IsBareKey key) (value : String)
    (more : List Char) :
    Document ((entry key value).toList ++ more) xs
      ↔ ∃ later, Document more later
        ∧ xs = .entry [key] (.string value) :: later := by
  have htext : (entry key value).toList ++ more = key.toList
      ++ ' ' :: '=' :: ' ' :: ((string value).toList ++ '\n' :: more) := by
    simp [entry]
  have hblank : ∀ x : List Char, Skips isBlank (' ' :: x) x := fun x =>
    .cons rfl (.refl x)
  rw [document_entry_iff ⟨htext.symm, List.all_eq_true.1 hkey.all⟩
    hkey.nonempty (hblank _) (hblank _) (quoted_string value ('\n' :: more))]
  simp only [String.ofList_toList]

/-- Keys with their values, one behind the other. -/
theorem document_entries_iff (hkeys : ∀ e ∈ es, IsBareKey e.1) :
    Document (String.join (es.map fun e => entry e.1 e.2)).toList xs
      ↔ xs = es.map fun e => .entry [e.1] (.string e.2) := by
  induction es generalizing xs with
  | nil => simpa using document_nil_iff
  | cons e es ih =>
      rw [List.forall_mem_cons] at hkeys
      rw [List.map_cons, String.join_cons, String.toList_append,
        document_written_iff hkeys.1, List.map_cons]
      simp only [ih hkeys.2, exists_eq_left]

/-- The table of keys and values is read back from their text. -/
theorem readsAs_entries (hkeys : ∀ e ∈ es, IsBareKey e.1)
    (hdistinct : (es.map Prod.fst).Nodup)
    (hlook : ∀ key value, look key = some value ↔ (key, value) ∈ es) :
    ReadsAs (String.join (es.map fun e => entry e.1 e.2)).toList look := by
  refine ⟨_, fun xs => document_entries_iff hkeys, ?_, ?_, ?_⟩
  · intro x hx
    obtain ⟨e, -, rfl⟩ := List.mem_map.1 hx
    exact ⟨e.1, e.2, rfl⟩
  · have hpaths : (es.map fun e => Statement.entry [e.1] (.string e.2)).map
        Statement.path = (es.map Prod.fst).map fun key => [key] := by
      simp only [List.map_map]
      rfl
    rw [hpaths, List.Nodup, List.pairwise_map]
    exact hdistinct.imp fun hne h => hne (List.cons.inj h).1
  · intro key value
    rw [hlook, List.mem_map]
    constructor
    · intro hmem
      exact ⟨(key, value), hmem, rfl⟩
    · rintro ⟨e, hmem, he⟩
      simp only [Statement.entry.injEq, List.cons.injEq, and_true,
        Value.string.injEq] at he
      obtain ⟨rfl, rfl⟩ := he
      exact hmem

end PairingHarness.Text.Toml
