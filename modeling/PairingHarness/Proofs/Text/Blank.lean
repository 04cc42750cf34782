/-
What trimming leaves.

Trimming takes the blanks off both sides and nothing else: it leaves the
one part of the text that has blanks only before and behind it and no
blank at either end (`trimmed_eq_iff`).

A blank is any character that Unicode has as white space, so a value
from a file with unusual spaces in it is trimmed as one with plain
spaces is. The core is unique because its first and last characters are
no blanks, or there are none.
-/
import PairingHarness.Text.Blank

namespace PairingHarness.Text

variable {cs core text left right : List Char}

/-- No digit is blank. -/
theorem isBlank_of_isDigit {c : Char} (h : c.isDigit = true) :
    isBlank c = false := by
  obtain ⟨hlow, hhigh⟩ := Char.isDigit_iff_toNat.1 h
  have hlow' : 48 ≤ c.toNat := hlow
  have hhigh' : c.toNat ≤ 57 := hhigh
  simp [isBlank]
  omega

/-- The characters are the text without the blanks around it. -/
structure IsCore (core text : List Char) : Prop where
  /-- Only blanks stand before and behind them in the text. -/
  padded : ∃ left right, text = left ++ core ++ right
    ∧ (∀ c ∈ left, isBlank c = true) ∧ ∀ c ∈ right, isBlank c = true
  /-- They do not begin with a blank. -/
  head : ∀ c ∈ core.head?, isBlank c = false
  /-- They do not end with a blank. -/
  last : ∀ c ∈ core.getLast?, isBlank c = false

theorem isCore_of_noBlank (hcore : ∀ c ∈ core, isBlank c = false)
    (hleft : ∀ c ∈ left, isBlank c = true)
    (hright : ∀ c ∈ right, isBlank c = true) :
    IsCore core (left ++ core ++ right) where
  padded := ⟨left, right, rfl, hleft, hright⟩
  head c hc := hcore c (List.mem_of_mem_head? hc)
  last c hc := hcore c (List.mem_of_mem_getLast? hc)

-- ====================================================== on one side

theorem dropWhile_blank_append (hleft : ∀ c ∈ left, isBlank c = true)
    (hhead : ∀ c ∈ cs.head?, isBlank c = false) :
    (left ++ cs).dropWhile isBlank = cs := by
  rw [List.dropWhile_append_of_pos hleft]
  cases cs with
  | nil => rfl
  | cons c cs =>
      rw [List.dropWhile_cons_of_neg]
      simp [hhead c rfl]

theorem head?_dropWhile_blank (cs : List Char) :
    ∀ c ∈ (cs.dropWhile isBlank).head?, isBlank c = false := by
  intro c hc
  have hhead := List.head?_dropWhile_not isBlank cs
  rwa [Option.mem_def.1 hc] at hhead

theorem dropBlankEnd_append (hright : ∀ c ∈ right, isBlank c = true)
    (hlast : ∀ c ∈ cs.getLast?, isBlank c = false) :
    dropBlankEnd (cs ++ right) = cs := by
  unfold dropBlankEnd
  rw [List.reverse_append, dropWhile_blank_append
    (fun c hc => hright c (List.mem_reverse.1 hc))
    (by rwa [List.head?_reverse]), List.reverse_reverse]

/-- What is taken off the end are blanks, and none is left there. -/
theorem exists_dropBlankEnd_append (cs : List Char) :
    ∃ right, cs = dropBlankEnd cs ++ right
      ∧ (∀ c ∈ right, isBlank c = true)
      ∧ ∀ c ∈ (dropBlankEnd cs).getLast?, isBlank c = false := by
  refine ⟨(cs.reverse.takeWhile isBlank).reverse, ?_, fun c hc => ?_, ?_⟩
  · unfold dropBlankEnd
    rw [← List.reverse_append, List.takeWhile_append_dropWhile,
      List.reverse_reverse]
  · exact List.all_eq_true.1 List.all_takeWhile c (List.mem_reverse.1 hc)
  · unfold dropBlankEnd
    rw [List.getLast?_reverse]
    exact head?_dropWhile_blank cs.reverse

-- ==================================================== on both sides

/-- What lies between blanks is what trimming leaves, -/
theorem trimmed_of_isCore (h : IsCore core text) : trimmed text = core := by
  obtain ⟨⟨left, right, rfl, hleft, hright⟩, hhead, hlast⟩ := h
  unfold trimmed
  cases core with
  | nil =>
      have hall : ∀ c ∈ left ++ right, isBlank c = true := by
        intro c hc
        exact (List.mem_append.1 hc).elim (hleft c) (hright c)
      have hnone := @dropWhile_blank_append [] _ hall (by simp)
      rw [List.append_nil] at hnone ⊢
      rw [hnone]
      rfl
  | cons c cs =>
      rw [List.append_assoc, dropWhile_blank_append hleft (by simpa using hhead),
        dropBlankEnd_append hright hlast]

/-- and what trimming leaves lies between blanks. -/
theorem isCore_trimmed (text : List Char) : IsCore (trimmed text) text := by
  obtain ⟨right, hsplit, hright, hlast⟩ :=
    exists_dropBlankEnd_append (text.dropWhile isBlank)
  refine ⟨⟨text.takeWhile isBlank, right, ?_, fun c hc => ?_, hright⟩,
    fun c hc => ?_, hlast⟩
  · unfold trimmed
    rw [List.append_assoc, ← hsplit, List.takeWhile_append_dropWhile]
  · exact List.all_eq_true.1 List.all_takeWhile c hc
  · have hcore : (dropBlankEnd (text.dropWhile isBlank)).head? = some c :=
      hc
    refine head?_dropWhile_blank text c ?_
    rw [hsplit, List.head?_append, hcore]
    rfl

/-- Trimming leaves the text without the blanks around it. -/
theorem trimmed_eq_iff : trimmed text = core ↔ IsCore core text := by
  constructor
  · rintro rfl
    exact isCore_trimmed text
  · exact trimmed_of_isCore

theorem trim_of_noBlank {s : String}
    (h : ∀ c ∈ s.toList, isBlank c = false) : trim s = s := by
  have hcore : IsCore s.toList s.toList := by
    have hpadded := @isCore_of_noBlank s.toList [] [] h (by simp) (by simp)
    rwa [List.append_nil] at hpadded
  unfold trim
  rw [trimmed_of_isCore hcore, String.ofList_toList]

/-- Further blanks on either side do not change what is left. -/
theorem IsCore.pad (h : IsCore core cs)
    (hleft : ∀ c ∈ left, isBlank c = true)
    (hright : ∀ c ∈ right, isBlank c = true) :
    IsCore core (left ++ cs ++ right) := by
  obtain ⟨⟨left', right', rfl, hleft', hright'⟩, hhead, hlast⟩ := h
  refine ⟨⟨left ++ left', right' ++ right, by simp, ?_, ?_⟩, hhead, hlast⟩
  · intro c hc
    exact (List.mem_append.1 hc).elim (hleft c) (hleft' c)
  · intro c hc
    exact (List.mem_append.1 hc).elim (hright' c) (hright c)

/-- A change of letters that makes no blank and takes none away can be made
before or after. -/
theorem dropBlankEnd_map {f : Char → Char}
    (hf : ∀ c, isBlank (f c) = isBlank c) (cs : List Char) :
    dropBlankEnd (cs.map f) = (dropBlankEnd cs).map f := by
  have hcomp : isBlank ∘ f = isBlank := funext hf
  unfold dropBlankEnd
  rw [← List.map_reverse, List.dropWhile_map, hcomp, List.map_reverse]

/-- Changes that make no blank and take none away can be made before or
after trimming. -/
theorem trimmed_map {f : Char → Char}
    (hf : ∀ c, isBlank (f c) = isBlank c) (cs : List Char) :
    trimmed (cs.map f) = (trimmed cs).map f := by
  have hcomp : isBlank ∘ f = isBlank := funext hf
  unfold trimmed
  rw [List.dropWhile_map, hcomp, dropBlankEnd_map hf]

/-- A property of some core is one of the trimmed text, since there is no
other core. -/
theorem exists_isCore_iff {p : List Char → Prop} :
    (∃ core, IsCore core text ∧ p core) ↔ p (trimmed text) := by
  simp [← trimmed_eq_iff]

end PairingHarness.Text
