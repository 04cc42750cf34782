/-
Passes over a list that stop at the first fault.

Either all elements of a list are good or there is a first that is not
(`exists_first`). A pass over the list gives something for every element
where all are good (`exists_mapM_ok`) and ends in the error of the first
that is not (`mapM_of_first`), whatever stands behind it.

The scenarios that are selected, the overrides that are gathered and the
settings that are checked are all such passes, so which error is told in
the end is in each case a matter of which element is the first that is
not good.
-/
import Mathlib.Data.List.Forall2

namespace PairingHarness

variable {α β ε : Type} {f : α → Except ε β}

/-- Where not all are good there is a first that is not. -/
theorem exists_first {P : α → Prop} {xs : List α} (h : ¬∀ x ∈ xs, P x) :
    ∃ before x after, xs = before ++ x :: after ∧ (∀ y ∈ before, P y)
      ∧ ¬P x := by
  classical
  cases hfind : xs.find? (fun x => decide (¬P x)) with
  | none =>
      refine absurd (fun x hx => ?_) h
      simpa using List.find?_eq_none.1 hfind x hx
  | some x =>
      obtain ⟨hx, before, after, hsplit, hbefore⟩ :=
        List.find?_eq_some_iff_append.1 hfind
      exact ⟨before, x, after, hsplit, by simpa using hbefore,
        by simpa using hx⟩

/-- A pass in which every element gives something gives all of it. -/
theorem exists_mapM_ok {xs : List α} (h : ∀ x ∈ xs, ∃ y, f x = .ok y) :
    ∃ ys, xs.mapM f = .ok ys
      ∧ List.Forall₂ (fun x y => f x = .ok y) xs ys := by
  induction xs with
  | nil => exact ⟨[], rfl, .nil⟩
  | cons x xs ih =>
      obtain ⟨y, hy⟩ := h x List.mem_cons_self
      obtain ⟨ys, hys, hall⟩ := ih fun z hz => h z (List.mem_cons_of_mem _ hz)
      rw [List.mapM_cons, hy, hys]
      exact ⟨y :: ys, rfl, .cons hy hall⟩

/-- What a pass gives is what some element gives. -/
theorem mem_iff_of_forall₂ {xs : List α} {ys : List β}
    (h : List.Forall₂ (fun x y => f x = .ok y) xs ys) {y : β} :
    y ∈ ys ↔ ∃ x ∈ xs, f x = .ok y := by
  induction h with
  | nil => simp
  | cons hx _ ih =>
      rw [List.mem_cons, ih, List.exists_mem_cons_iff, hx]
      simp [eq_comm]

/-- A pass ends in the error of the first element that gives one. -/
theorem mapM_of_first {before after : List α} {x : α} {e : ε}
    (hbefore : ∀ y ∈ before, ∃ b, f y = .ok b) (hx : f x = .error e) :
    (before ++ x :: after).mapM f = .error e := by
  obtain ⟨ys, hys, -⟩ := exists_mapM_ok hbefore
  rw [List.mapM_append, hys, List.mapM_cons, hx]
  rfl

/-- A pass on which nothing can fail is a map. -/
theorem mapM_eq_map {g : α → β} {xs : List α}
    (h : ∀ x ∈ xs, f x = .ok (g x)) : xs.mapM f = .ok (xs.map g) := by
  induction xs with
  | nil => rfl
  | cons x xs ih =>
      rw [List.mapM_cons, h x List.mem_cons_self,
        ih fun y hy => h y (List.mem_cons_of_mem _ hy)]
      rfl

end PairingHarness
