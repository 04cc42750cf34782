/-
The walk to the descendants finds all of them.

A process is a descendant of another where parent links lead from the one
to the other (`Linked`). One round of the walk notes the children of one
process that were not found before (`foldl_note`). Between two rounds
whatever was found is linked to the root, and whatever was found or is the
root waits in the queue or has all its children found (`Walked`); each
round takes one from the queue, and no more are ever put there than there
are links. So the steps that are allowed are enough to empty the queue:
the walk is the one that goes on for as long as something waits (`Ends`,
`ends_walk`), and at its end the processes found are closed under links.

The links come from files that are read one after another while
processes come and go, so nothing is assumed of them: a link may name
itself or lead in a circle, and a process may have several. The walk
ends all the same and finds each process once, since it takes no account
of what was found before (`descendant_pids`).
-/
import PairingHarness.Host.Descendants
import Mathlib.Data.List.Perm.Subperm
import Mathlib.Logic.Relation

namespace PairingHarness.Host

/-- Parent links lead from a process to another. -/
def Linked (links : List Link) : Pid → Pid → Prop :=
  Relation.TransGen fun p q => ⟨q, p⟩ ∈ links

namespace Descendants

variable {links : List Link} {root p q : Pid}
  {found queue pids : List Pid}

/-- The children of a process are those that name it as their parent. -/
theorem mem_children_iff : q ∈ children links p ↔ ⟨q, p⟩ ∈ links := by
  unfold children
  rw [List.mem_map]
  constructor
  · rintro ⟨l, hl, rfl⟩
    obtain ⟨hmem, hparent⟩ := List.mem_filter.1 hl
    obtain rfl : l.parent = p := by simpa using hparent
    exact hmem
  · intro hmem
    exact ⟨⟨q, p⟩, List.mem_filter.2 ⟨hmem, by simp⟩, rfl⟩

-- ============================================================= one round

/-- A process that was found before is not noted again. -/
theorem note_of_mem (h : p ∈ found) :
    note (found, queue) p = (found, queue) := by
  simp [note, h]

/-- A new one is found and waits, both at the end. -/
theorem note_of_not_mem (h : p ∉ found) :
    note (found, queue) p = (found ++ [p], queue ++ [p]) := by
  simp [note, h]

/-- The processes that are noted are those of the list that were not found
before, each once, and they are put behind both lists. -/
theorem foldl_note (pids found queue : List Pid) (h : found.Nodup) :
    ∃ new, pids.foldl note (found, queue) = (found ++ new, queue ++ new)
      ∧ (found ++ new).Nodup ∧ (∀ q ∈ new, q ∈ pids)
      ∧ ∀ q ∈ pids, q ∈ found ++ new := by
  induction pids generalizing found queue with
  | nil =>
      exact ⟨[], by simp, by simpa using h, by simp, by simp⟩
  | cons pid rest ih =>
      rw [List.foldl_cons]
      -- one already found adds nothing, so whatever is added is added once
      by_cases hknown : pid ∈ found
      · rw [note_of_mem hknown]
        obtain ⟨new, heq, hnodup, hnew, hall⟩ := ih found queue h
        exact ⟨new, heq, hnodup,
          fun q hq => List.mem_cons_of_mem _ (hnew q hq),
          List.forall_mem_cons.2 ⟨List.mem_append_left _ hknown, hall⟩⟩
      · rw [note_of_not_mem hknown]
        have hnodup : (found ++ [pid]).Nodup :=
          List.nodup_append.2 ⟨h, List.pairwise_singleton _ pid,
            fun p hp q hq heq => hknown
              (List.mem_singleton.1 hq ▸ heq ▸ hp)⟩
        obtain ⟨new, heq, hnodup, hnew, hall⟩ :=
          ih (found ++ [pid]) (queue ++ [pid]) hnodup
        refine ⟨pid :: new, by simpa using heq, by simpa using hnodup,
          ?_, ?_⟩
        · exact List.forall_mem_cons.2 ⟨List.mem_cons_self,
            fun q hq => List.mem_cons_of_mem _ (hnew q hq)⟩
        · exact List.forall_mem_cons.2 ⟨by simp,
            fun q hq => by simpa using hall q hq⟩

-- ============================================================= the walk

/-- What holds between two rounds. -/
structure Walked (links : List Link) (root : Pid)
    (found queue : List Pid) : Prop where
  once : found.Nodup
  linked : ∀ q ∈ found, Linked links root q
  queued : ∀ q ∈ queue, q = root ∨ q ∈ found
  closed : ∀ q, q = root ∨ q ∈ found →
    q ∈ queue ∨ ∀ c ∈ children links q, c ∈ found

/-- At the start the root waits and nothing was found. -/
theorem walked_start : Walked links root [] [root] where
  once := List.nodup_nil
  linked := fun _ h => absurd h List.not_mem_nil
  queued := fun _ h => .inl (List.mem_singleton.1 h)
  closed := fun _ h => .inl (List.mem_singleton.2
    (h.resolve_right List.not_mem_nil))

/-- One round keeps it, and puts as many into the queue as it finds, which
are children of the process that was taken from there. -/
theorem Walked.round (h : Walked links root found (p :: queue)) :
    ∃ new, (children links p).foldl note (found, queue)
        = (found ++ new, queue ++ new)
      ∧ (∀ q ∈ new, q ∈ children links p)
      ∧ (∀ q ∈ children links p, q ∈ found ++ new)
      ∧ Walked links root (found ++ new) (queue ++ new) := by
  obtain ⟨new, heq, hnodup, hnew, hall⟩ :=
    foldl_note (children links p) found queue h.once
  refine ⟨new, heq, hnew, hall, {
    once := hnodup
    linked := fun q hq => ?_
    queued := fun q hq => ?_
    closed := fun q hq => ?_ }⟩
  -- what is new is a child of the one just taken, which is linked itself
  · rcases List.mem_append.1 hq with hq | hq
    · exact h.linked q hq
    · have hlink := mem_children_iff.1 (hnew q hq)
      rcases h.queued p List.mem_cons_self with rfl | hp
      · exact .single hlink
      · exact (h.linked p hp).tail hlink
  · rcases List.mem_append.1 hq with hq | hq
    · exact (h.queued q (List.mem_cons_of_mem _ hq)).imp_right
        (List.mem_append_left _)
    · exact .inr (List.mem_append_right _ hq)
  -- the one taken leaves the queue, and its children are all found by now
  · by_cases hp : q = p
    · subst hp
      exact .inr hall
    · have hcases : q = root ∨ q ∈ found ∨ q ∈ new := by
        simpa using hq
      rcases hcases with hroot | hfound | hnew
      · exact (h.closed q (.inl hroot)).imp
          (fun hmem => List.mem_append_left _
            ((List.mem_cons.1 hmem).resolve_left hp))
          fun hall c hc => List.mem_append_left _ (hall c hc)
      · exact (h.closed q (.inr hfound)).imp
          (fun hmem => List.mem_append_left _
            ((List.mem_cons.1 hmem).resolve_left hp))
          fun hall c hc => List.mem_append_left _ (hall c hc)
      · exact .inl (List.mem_append_right _ hnew)

/-- Whatever is linked to something is one of the links. -/
theorem mem_pids_of_linked (h : Linked links root q) :
    q ∈ links.map Link.pid := by
  cases h with
  | single hlink => exact List.mem_map_of_mem hlink
  | tail _ hlink => exact List.mem_map_of_mem hlink

/-- No more are found than there are links, since each was found once and
has a link. -/
theorem Walked.length_le (h : Walked links root found queue) :
    found.length ≤ links.length := by
  have hle := (List.Nodup.subperm h.once fun q hq =>
    mem_pids_of_linked (h.linked q hq)).length_le
  rwa [List.length_map] at hle

-- ============================================================== its end

/-- Round follows round for as long as something waits, however many it
takes, and this is what was found then. -/
inductive Ends (links : List Link) :
    (found queue result : List Pid) → Prop where
  | done (found : List Pid) : Ends links found [] found
  | round {p : Pid} {found queue found' queue' result : List Pid}
      (hround : (children links p).foldl note (found, queue)
        = (found', queue'))
      (hrest : Ends links found' queue' result) :
      Ends links found (p :: queue) result

/-- The walk without a bound ends in one way. -/
theorem Ends.unique {result result' : List Pid}
    (h : Ends links found queue result)
    (h' : Ends links found queue result') : result = result' := by
  induction h with
  | done => cases h' with | done => rfl
  | round hround _ ih =>
      cases h' with
      | round hround' hrest' =>
          obtain ⟨rfl, rfl⟩ := Prod.mk.inj (hround.symm.trans hround')
          exact ih hrest'

/-- With a step for each that waits and for each that may still be found,
the walk goes on until none waits. -/
theorem ends_walk {steps : Nat} (h : Walked links root found queue)
    (hsteps : steps + found.length = links.length + queue.length) :
    Ends links found queue (walk links steps found queue) := by
  -- on the steps left: one for each that waits and one for each link that
  -- has found nothing yet
  induction steps generalizing found queue with
  | zero =>
      have hle := h.length_le
      have hempty : queue.length = 0 := by omega
      rw [List.eq_nil_of_length_eq_zero hempty]
      exact .done found
  | succ steps ih =>
      cases queue with
      | nil => exact .done found
      | cons p queue =>
          obtain ⟨new, heq, -, -, hnext⟩ := h.round
          unfold walk
          rw [heq]
          refine .round heq (ih hnext ?_)
          simp only [List.length_append, List.length_cons] at hsteps ⊢
          omega

/-- What the rounds leave true is true at the end of the walk. -/
theorem Ends.walked {result : List Pid} (h : Ends links found queue result)
    (hwalked : Walked links root found queue) :
    Walked links root result [] := by
  induction h with
  | done => exact hwalked
  | round hround _ ih =>
      obtain ⟨new, heq, -, -, hnext⟩ := hwalked.round
      obtain ⟨rfl, rfl⟩ := Prod.mk.inj (heq.symm.trans hround)
      exact ih hnext

/-- The bound of the program is never what ends the walk. -/
theorem ends_descendants (links : List Link) (root : Pid) :
    Ends links [] [root] (descendants links root) :=
  ends_walk walked_start (by simp)

/-- So at its end everything found is linked to the root and nothing waits.
-/
theorem walked_descendants (links : List Link) (root : Pid) :
    Walked links root (descendants links root) [] :=
  (ends_descendants links root).walked walked_start

end Descendants

/-- The descendants that are found are those that links lead to. -/
theorem mem_descendants_iff {links : List Link} {root q : Pid} :
    q ∈ descendants links root ↔ Linked links root q := by
  have hall := Descendants.walked_descendants links root
  constructor
  · exact hall.linked q
  · intro h
    have hclosed : ∀ {p c}, p = root ∨ p ∈ descendants links root →
        ⟨c, p⟩ ∈ links → c ∈ descendants links root :=
      fun hp hlink => (hall.closed _ hp).resolve_left List.not_mem_nil _
        (Descendants.mem_children_iff.2 hlink)
    induction h with
    | single hlink => exact hclosed (.inl rfl) hlink
    | tail _ hlink ih => exact hclosed (.inr ih) hlink

end PairingHarness.Host
