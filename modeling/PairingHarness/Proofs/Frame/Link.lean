/-
The two parts of a link.

A link is its trunk and any slashes behind it (`IsTrunk`). The base and the
last segment are found apart from each other, from the end of the trunk,
and yet put together with one slash they are the trunk (`splits`). In the
other direction a segment behind any text and a slash is read back, and the
text with it (`tail_append`, `base_append`).

Two functions cut the same text in two places of the program, one for
the channel and one for the address of another channel. They agree
because both go by the last slash of the trunk, and the lemmas about
that slash are on lists of characters; only the last part speaks of
texts.
-/
import Mathlib.Data.List.TakeWhile
import PairingHarness.Frame.Link

namespace PairingHarness.Link

variable {link trunk : String} {cs u v : List Char}

-- ====================================================== the last segment

/-- The last segment has no slash in it. -/
theorem slash_not_mem_tail (link : String) : '/' ∉ (tail link).toList := by
  unfold tail afterLastSlash
  rw [String.toList_ofList, List.mem_reverse]
  intro h
  have hall := List.all_takeWhile
    (p := (· ≠ '/')) (l := (withoutEndSlashes link.toList).reverse)
  have hne := List.all_eq_true.1 hall _ h
  exact absurd rfl (of_decide_eq_true hne)

/-- Without its slashes at the end a text does not end in a slash. -/
theorem head?_withoutEndSlashes (cs : List Char) :
    ∀ c ∈ (withoutEndSlashes cs).reverse.head?, c ≠ '/' := by
  intro c hc
  unfold withoutEndSlashes at hc
  rw [List.reverse_reverse, Option.mem_def] at hc
  have hnot := List.head?_dropWhile_not (· = '/') cs.reverse
  rw [hc] at hnot
  simpa using hnot

/-- A text of slashes alone has no trunk to speak of. -/
theorem withoutEndSlashes_eq_nil_iff :
    withoutEndSlashes cs = [] ↔ ∀ c ∈ cs, c = '/' := by
  unfold withoutEndSlashes
  rw [List.reverse_eq_nil_iff, List.dropWhile_eq_nil_iff]
  simp only [List.mem_reverse, decide_eq_true_eq]

/-- Where there is a trunk it does not end with a slash, so its last segment
is not empty. -/
theorem afterLastSlash_withoutEndSlashes_eq_nil_iff :
    afterLastSlash (withoutEndSlashes cs) = [] ↔ withoutEndSlashes cs = [] := by
  unfold afterLastSlash
  rw [List.reverse_eq_nil_iff]
  constructor
  · intro h
    have hhead := head?_withoutEndSlashes cs
    cases hr : (withoutEndSlashes cs).reverse with
    | nil => exact List.reverse_eq_nil_iff.1 hr
    | cons c rest =>
        rw [hr] at h hhead
        have hne : decide (c ≠ '/') = true := decide_eq_true (hhead c rfl)
        rw [List.takeWhile_cons, hne] at h
        cases h
  · intro h
    rw [h]
    rfl

/-- There is no last segment exactly where there are slashes only, or
nothing. -/
theorem tail_eq_empty_iff : tail link = "" ↔ ∀ c ∈ link.toList, c = '/' := by
  rw [← withoutEndSlashes_eq_nil_iff,
    ← afterLastSlash_withoutEndSlashes_eq_nil_iff,
    ← String.toList_inj, tail, String.toList_ofList]
  rfl

-- ========================================================= the last slash

/-- A text with a slash in it splits at the last one. -/
theorem exists_last_slash (h : '/' ∈ cs) :
    ∃ u v, cs = u ++ '/' :: v ∧ '/' ∉ v := by
  obtain ⟨v, u, hcs, hv⟩ :=
    List.eq_append_cons_of_mem (List.mem_reverse.2 h)
  refine ⟨u.reverse, v.reverse, ?_, by simpa using hv⟩
  rw [← List.reverse_reverse cs, hcs]
  simp

theorem forall_ne_slash_of_not_mem (h : '/' ∉ v) :
    ∀ c ∈ v.reverse, decide (c ≠ '/') = true := by
  intro c hc
  refine decide_eq_true ?_
  rintro rfl
  exact h (List.mem_reverse.1 hc)

/-- A segment behind a slash is found whole, whatever stands in front of the
slash. -/
theorem afterLastSlash_append (h : '/' ∉ v) :
    afterLastSlash (u ++ '/' :: v) = v := by
  unfold afterLastSlash
  rw [List.reverse_append, List.reverse_cons, List.append_assoc,
    List.takeWhile_append_of_pos (forall_ne_slash_of_not_mem h)]
  simp

/-- And what stands in front of the slash is found as well, slashes and all.
-/
theorem beforeLastSlash_append (h : '/' ∉ v) :
    beforeLastSlash (u ++ '/' :: v) = u := by
  unfold beforeLastSlash
  rw [List.reverse_append, List.reverse_cons, List.append_assoc,
    List.dropWhile_append_of_pos (forall_ne_slash_of_not_mem h)]
  simp

/-- A text without slashes is one segment. -/
theorem afterLastSlash_of_not_mem (h : '/' ∉ cs) :
    afterLastSlash cs = cs := by
  unfold afterLastSlash
  rw [List.takeWhile_eq_self_iff.2 (forall_ne_slash_of_not_mem h),
    List.reverse_reverse]

/-- And has nothing in front of it. -/
theorem beforeLastSlash_of_not_mem (h : '/' ∉ cs) :
    beforeLastSlash cs = [] := by
  unfold beforeLastSlash
  rw [List.dropWhile_eq_nil_iff.2 (forall_ne_slash_of_not_mem h)]
  rfl

-- ============================================================== the trunk

/-- A link is its trunk and slashes behind it, and the trunk does not end
in one. -/
def IsTrunk (link trunk : String) : Prop :=
  (∃ n, link.toList = trunk.toList ++ List.replicate n '/')
    ∧ trunk.toList.getLast? ≠ some '/'

/-- What does not end with a slash is its own trunk. -/
theorem withoutEndSlashes_eq_self (h : cs.getLast? ≠ some '/') :
    withoutEndSlashes cs = cs := by
  unfold withoutEndSlashes
  rw [← List.head?_reverse] at h
  cases hr : cs.reverse with
  | nil => simpa using hr
  | cons c rest =>
      rw [hr] at h
      have hne : c ≠ '/' := by simpa using h
      rw [List.dropWhile_cons_of_neg (by simpa using hne), ← hr,
        List.reverse_reverse]

/-- The trunk is what is left of a link without the slashes at its end. -/
theorem isTrunk_iff :
    IsTrunk link trunk ↔ trunk.toList = withoutEndSlashes link.toList := by
  constructor
  · rintro ⟨⟨n, hlink⟩, hlast⟩
    have hslashes : ∀ c ∈ List.replicate n '/', decide (c = '/') = true :=
      fun c hc => decide_eq_true (List.eq_of_mem_replicate hc)
    refine (withoutEndSlashes_eq_self hlast).symm.trans ?_
    unfold withoutEndSlashes
    rw [hlink, List.reverse_append, List.reverse_replicate,
      List.dropWhile_append_of_pos hslashes]
  · intro htrunk
    refine ⟨⟨(link.toList.reverse.takeWhile (· = '/')).length, ?_⟩, ?_⟩
    · have hslashes : link.toList.reverse.takeWhile (· = '/')
          = List.replicate _ '/' :=
        List.eq_replicate_of_mem fun c hc => by
          simpa using List.mem_takeWhile_imp hc
      rw [htrunk, withoutEndSlashes, ← List.reverse_replicate, ← hslashes,
        ← List.reverse_append, List.takeWhile_append_dropWhile,
        List.reverse_reverse]
    · rw [htrunk, ← List.head?_reverse]
      exact fun h => head?_withoutEndSlashes link.toList '/' h rfl

/-- Every link has one trunk. -/
theorem exists_unique_trunk (link : String) : ∃! trunk, IsTrunk link trunk :=
  ⟨String.ofList (withoutEndSlashes link.toList),
    isTrunk_iff.2 String.toList_ofList,
    fun _ h => by rw [← isTrunk_iff.1 h, String.ofList_toList]⟩

-- ============================================================== the parts

/-- What the parts of a link are: the base and the last segment. -/
structure Splits (link base tail : String) : Prop where
  /-- The segment has no slash in it. -/
  segment : '/' ∉ tail.toList
  /-- It is empty where there is nothing in the link but slashes. -/
  empty : tail = "" ↔ ∀ c ∈ link.toList, c = '/'
  /-- With one slash between them they are the trunk, if it has a slash. -/
  joined : ∀ trunk, IsTrunk link trunk → '/' ∈ trunk.toList →
    trunk = base ++ "/" ++ tail
  /-- A trunk without a slash is the segment, and there is no base. -/
  single : ∀ trunk, IsTrunk link trunk → '/' ∉ trunk.toList →
    base = "" ∧ tail = trunk

/-- Base and last segment fit together for every link: what `link_tail`
takes for the channel and what the address is made of never overlap and
leave nothing out. -/
theorem splits (link : String) : Splits link (base link) (tail link) where
  segment := slash_not_mem_tail link
  empty := tail_eq_empty_iff
  joined := by
    intro trunk htrunk hslash
    obtain ⟨u, v, hsplit, hv⟩ := exists_last_slash hslash
    rw [← String.toList_inj, base, tail, ← isTrunk_iff.1 htrunk, hsplit,
      beforeLastSlash_append hv, afterLastSlash_append hv]
    simp
  single := by
    intro trunk htrunk hslash
    rw [base, tail, ← isTrunk_iff.1 htrunk,
      beforeLastSlash_of_not_mem hslash, afterLastSlash_of_not_mem hslash]
    exact ⟨rfl, String.ofList_toList⟩

/-- The end of a segment is no slash. -/
theorem withoutEndSlashes_append (hv : v ≠ []) (h : '/' ∉ v) :
    withoutEndSlashes (u ++ '/' :: v) = u ++ '/' :: v := by
  have hlast : (u ++ '/' :: v).getLast? = some (v.getLast hv) := by
    rw [← List.singleton_append, ← List.append_assoc, List.getLast?_append,
      List.getLast?_eq_some_getLast hv, Option.some_or]
  refine withoutEndSlashes_eq_self fun hslash => ?_
  obtain heq : v.getLast hv = '/' := by simpa [hlast] using hslash
  exact h (heq ▸ List.getLast_mem hv)

section Append

variable {segment : String} (hne : segment ≠ "")
  (hslash : '/' ∉ segment.toList) (front : String)
include hne hslash

/-- A segment behind a text and a slash is read back. -/
theorem tail_append : tail (front ++ "/" ++ segment) = segment := by
  have hne : segment.toList ≠ [] := by simpa using hne
  have hcs : (front ++ "/" ++ segment).toList
      = front.toList ++ '/' :: segment.toList := by simp
  rw [tail, hcs, withoutEndSlashes_append hne hslash,
    afterLastSlash_append hslash, String.ofList_toList]

/-- What stands before the slash and a segment is read back. -/
theorem base_append : base (front ++ "/" ++ segment) = front := by
  have hne : segment.toList ≠ [] := by simpa using hne
  have hcs : (front ++ "/" ++ segment).toList
      = front.toList ++ '/' :: segment.toList := by simp
  rw [base, hcs, withoutEndSlashes_append hne hslash,
    beforeLastSlash_append hslash, String.ofList_toList]

end Append

end PairingHarness.Link
