/-
The walk meets nearer descendants first.

The distance of a descendant is the length of the shortest chain of parent
links to it, one link at the least: the root itself has one only where
links lead back to it. The queue holds what is left of one level and, behind
it, what was found of the next (`Leveled`). While the rounds take the level
from the queue, whatever they find is new and so not nearer than the next
one (`Leveled.round`); once the level is used up, everything at the next is
found and waits (`Leveled.ascend`).

The queue is never longer than two levels, and this is all that makes
the order right. The invariant names the level that is being taken and
splits the queue at it; a round that finds something puts it behind the
split, at the next level, and when nothing is left in front of the split
the level is over. Nothing is assumed of the links here either.
-/
import PairingHarness.Proofs.Host.Descendants

namespace PairingHarness.Host

variable {links : List Link} {root p q : Pid} {m n level : Nat}
  {near far found queue : List Pid}

-- ============================================================== distances

/-- A chain of so many parent links leads from one process to another. -/
inductive Leads (links : List Link) (root : Pid) : Nat → Pid → Prop where
  | start : Leads links root 0 root
  | link {n : Nat} {p q : Pid} (h : Leads links root n p)
      (hlink : ⟨q, p⟩ ∈ links) : Leads links root (n + 1) q

/-- The length of the shortest chain to a descendant. -/
structure Distance (links : List Link) (root : Pid) (d : Nat) (q : Pid) :
    Prop where
  pos : 0 < d
  leads : Leads links root d q
  least : ∀ n, 0 < n → Leads links root n q → d ≤ n

/-- The first process is no further than the second. -/
def NoFurther (links : List Link) (root p q : Pid) : Prop :=
  ∀ m n, Distance links root m p → Distance links root n q → m ≤ n

/-- Who is at a smaller distance is no further away. -/
theorem noFurther_of_le (hp : Distance links root m p)
    (hq : Distance links root n q) (h : m ≤ n) :
    NoFurther links root p q := by
  intro m' n' hp' hq'
  have hm := hp'.least m hp.pos hp.leads
  have hn := hq.least n' hq'.pos hq'.leads
  omega

/-- A chain of some links is a link to a descendant. -/
theorem linked_of_leads (h : Leads links root (n + 1) q) :
    Linked links root q := by
  induction n generalizing q with
  | zero =>
      cases h with
      | link h hlink =>
          cases h with
          | start => exact .single hlink
  | succ n ih =>
      cases h with
      | link h hlink => exact .tail (ih h) hlink

-- ============================================================= one level

namespace Descendants

/-- What holds between two rounds while the queue holds `near` of one level
and then `far` of the next. -/
structure Leveled (links : List Link) (root : Pid) (level : Nat)
    (near far found : List Pid) : Prop where
  here : ∀ q ∈ near, Leads links root level q
  beyond : ∀ q ∈ far, Leads links root (level + 1) q
  /-- All that is no further than the level is found. -/
  known : ∀ n q, n < level → Leads links root (n + 1) q → q ∈ found
  /-- What is found beyond the level waits. -/
  fresh : ∀ q ∈ found,
    q ∈ far ∨ ∃ n, n < level ∧ Leads links root (n + 1) q
  /-- The children of all that is no further are found, if it does not
  wait. -/
  passed : ∀ n p, n ≤ level → Leads links root n p →
    (n = level ∧ p ∈ near) ∨ ∀ c ∈ children links p, c ∈ found
  within : ∀ q ∈ found, ∃ d, d ≤ level + 1 ∧ Distance links root d q
  order : found.Pairwise (NoFurther links root)

/-- At the start the root is the whole level and nothing is behind it. -/
theorem leveled_start : Leveled links root 0 [root] [] [] where
  here := fun q hq => by
    rw [List.mem_singleton.1 hq]
    exact .start
  beyond := fun _ h => absurd h List.not_mem_nil
  known := fun _ _ hn => absurd hn (Nat.not_lt_zero _)
  fresh := fun _ h => absurd h List.not_mem_nil
  passed := by
    intro n p hn hp
    obtain rfl : n = 0 := Nat.le_zero.1 hn
    cases hp with
    | start => exact .inl ⟨rfl, List.mem_singleton_self _⟩
  within := fun _ h => absurd h List.not_mem_nil
  order := .nil

/-- A process that is found at a round is one link beyond the level. -/
theorem Leveled.distance_new
    (h : Leveled links root level (p :: near) far found)
    (hchild : q ∈ children links p) (hnew : q ∉ found) :
    Distance links root (level + 1) q where
  pos := Nat.succ_pos level
  leads := .link (h.here p List.mem_cons_self) (mem_children_iff.1 hchild)
  least := by
    intro n hn hleads
    apply Nat.le_of_not_lt
    intro hlt
    obtain ⟨m, rfl⟩ : ∃ m, n = m + 1 := ⟨n - 1, by omega⟩
    exact hnew (h.known m q (by omega) hleads)

/-- A round takes one process of the level from the queue. -/
theorem Leveled.round {new : List Pid}
    (h : Leveled links root level (p :: near) far found)
    (honce : (found ++ new).Nodup)
    (hnew : ∀ q ∈ new, q ∈ children links p)
    (hall : ∀ q ∈ children links p, q ∈ found ++ new) :
    Leveled links root level near (far ++ new) (found ++ new) := by
  -- what is new was found at no earlier level, so it stands exactly one
  -- further
  have hdistance : ∀ q ∈ new, Distance links root (level + 1) q := by
    intro q hq
    apply h.distance_new (hnew q hq)
    exact fun hfound =>
      (List.nodup_append.1 honce).2.2 q hfound q hq rfl
  constructor
  case here => exact fun q hq => h.here q (List.mem_cons_of_mem _ hq)
  case beyond =>
    intro q hq
    rcases List.mem_append.1 hq with hq | hq
    · exact h.beyond q hq
    · exact (hdistance q hq).leads
  case known =>
    exact fun n q hn hq => List.mem_append_left _ (h.known n q hn hq)
  case fresh =>
    intro q hq
    rcases List.mem_append.1 hq with hq | hq
    · exact (h.fresh q hq).imp_left (List.mem_append_left _)
    · exact .inl (List.mem_append_right _ hq)
  -- only the one taken is passed in this round
  case passed =>
    intro n r hn hr
    rcases h.passed n r hn hr with ⟨hlevel, hmem⟩ | hchildren
    · rcases List.mem_cons.1 hmem with rfl | hmem
      · exact .inr hall
      · exact .inl ⟨hlevel, hmem⟩
    · exact .inr fun c hc => List.mem_append_left _ (hchildren c hc)
  case within =>
    intro q hq
    rcases List.mem_append.1 hq with hq | hq
    · exact h.within q hq
    · exact ⟨level + 1, Nat.le_refl _, hdistance q hq⟩
  -- nothing found so far stands further than the next level
  case order =>
    refine List.pairwise_append.2 ⟨h.order, ?_, ?_⟩
    · apply List.pairwise_of_forall_mem_list
      intro q hq r hr
      exact noFurther_of_le (hdistance q hq) (hdistance r hr) (Nat.le_refl _)
    · intro q hq r hr
      obtain ⟨d, hle, hd⟩ := h.within q hq
      exact noFurther_of_le hd (hdistance r hr) hle

/-- Once no process of the level waits, the next level is all that does. -/
theorem Leveled.ascend (h : Leveled links root level [] far found) :
    Leveled links root (level + 1) far [] found := by
  -- none of the level waits, so all of it has been passed
  have hchildren : ∀ n p, n ≤ level → Leads links root n p →
      ∀ c ∈ children links p, c ∈ found := by
    intro n p hn hp
    rcases h.passed n p hn hp with ⟨-, hmem⟩ | hall
    · exact absurd hmem List.not_mem_nil
    · exact hall
  have hknown : ∀ n q, n < level + 1 → Leads links root (n + 1) q →
      q ∈ found := by
    intro n q hn hq
    cases hq with
    | link hp hlink =>
        exact hchildren n _ (Nat.le_of_lt_succ hn) hp q
          (mem_children_iff.2 hlink)
  constructor
  case here => exact h.beyond
  case beyond => exact fun _ hq => absurd hq List.not_mem_nil
  case known => exact hknown
  case fresh =>
    intro q hq
    rcases h.fresh q hq with hfar | ⟨n, hn, hleads⟩
    · exact .inr ⟨level, Nat.lt_succ_self level, h.beyond q hfar⟩
    · exact .inr ⟨n, Nat.lt_succ_of_lt hn, hleads⟩
  case passed =>
    intro n p hn hp
    rcases Nat.le_succ_iff.1 hn with hn | rfl
    · exact .inr (hchildren n p hn hp)
    · -- it may stand at this level and have been found at an earlier one
      rcases h.fresh p (hknown level p (Nat.lt_succ_self level) hp)
        with hfar | ⟨m, hm, hleads⟩
      · exact .inl ⟨rfl, hfar⟩
      · exact .inr (hchildren (m + 1) p hm hleads)
  case within =>
    intro q hq
    obtain ⟨d, hle, hd⟩ := h.within q hq
    exact ⟨d, Nat.le_succ_of_le hle, hd⟩
  case order => exact h.order

/-- When the rounds are over, what was found is in the order of the
distances. -/
theorem Ends.leveled {result : List Pid} (h : Ends links found queue result)
    (hwalked : Walked links root found queue)
    (hqueue : queue = near ++ far)
    (hleveled : Leveled links root level near far found) :
    (∀ q ∈ result, ∃ d, Distance links root d q)
      ∧ result.Pairwise (NoFurther links root) := by
  induction h generalizing near far level with
  | done =>
      refine ⟨fun q hq => ?_, hleveled.order⟩
      obtain ⟨d, -, hd⟩ := hleveled.within q hq
      exact ⟨d, hd⟩
  | @round p found queue _ _ _ hround _ ih =>
      obtain ⟨new, heq, hnew, hall, hnext⟩ := hwalked.round
      obtain ⟨rfl, rfl⟩ := Prod.mk.inj (heq.symm.trans hround)
      have hturn {level near far} (hqueue : queue = near ++ far)
          (h : Leveled links root level (p :: near) far found) :=
        ih hnext (by rw [hqueue, List.append_assoc])
          (h.round hnext.once hnew hall)
      cases near with
      | nil =>
          rw [List.nil_append] at hqueue
          subst hqueue
          exact hturn (List.append_nil queue).symm hleveled.ascend
      | cons r near =>
          obtain ⟨rfl, htail⟩ := List.cons.inj hqueue
          exact hturn htail hleveled

end Descendants

-- ============================================================== the list

/-- A list of the descendants of a process, nearer ones first. -/
structure NearestFirst (links : List Link) (root : Pid)
    (found : List Pid) : Prop where
  once : found.Nodup
  /-- It has those to which a chain of one or more links leads; so it has
  the root only where one leads back to it. -/
  linked : ∀ q, q ∈ found ↔ Linked links root q
  distances : ∀ q ∈ found, ∃ d, Distance links root d q
  order : found.Pairwise (NoFurther links root)
  /-- In front of each stands a parent of it, unless that is the root. -/
  parents : ∀ front q back, found = front ++ q :: back →
    ∃ p, ⟨q, p⟩ ∈ links ∧ (p = root ∨ p ∈ front)

/-- Where nothing that is further stands in front, the last link of the
shortest chain comes from there. -/
theorem exists_parent_in_front {front back : List Pid}
    (hlinked : ∀ p, Linked links root p → p ∈ front ++ q :: back)
    (hdistances : ∀ p ∈ front ++ q :: back, ∃ d, Distance links root d p)
    (horder : (front ++ q :: back).Pairwise (NoFurther links root)) :
    ∃ p, ⟨q, p⟩ ∈ links ∧ (p = root ∨ p ∈ front) := by
  obtain ⟨d, hd⟩ := hdistances q (by simp)
  have hback : ∀ p ∈ back, NoFurther links root q p :=
    (List.pairwise_cons.1 (List.pairwise_append.1 horder).2.1).1
  cases hd.leads with
  | start => exact absurd hd.pos (Nat.lt_irrefl 0)
  | @link n p _ hp hlink =>
      refine ⟨p, hlink, ?_⟩
      cases n with
      | zero =>
          cases hp with
          | start => exact .inl rfl
      | succ n =>
          right
          have hmem := hlinked p (linked_of_leads hp)
          obtain ⟨m, hm⟩ := hdistances p hmem
          have hnear := hm.least (n + 1) (Nat.succ_pos n) hp
          -- it is nearer than the process, so it stands nowhere behind
          rcases List.mem_append.1 hmem with hfront | hrest
          · exact hfront
          · exfalso
            rcases List.mem_cons.1 hrest with rfl | hrest
            · have := hd.least m hm.pos hm.leads
              omega
            · have := hback p hrest _ m hd hm
              omega

/-- However many rounds it takes, the walk comes to an end, and what it has
found then are all descendants of the root, nearer ones first. -/
theorem descendants_nearestFirst (links : List Link) (root : Pid) :
    (∀ result, Descendants.Ends links [] [root] result
        ↔ result = descendants links root)
      ∧ NearestFirst links root (descendants links root) := by
  have hends := Descendants.ends_descendants links root
  have hwalked := Descendants.walked_descendants links root
  obtain ⟨hdistances, horder⟩ := hends.leveled Descendants.walked_start
    (List.append_nil [root]).symm Descendants.leveled_start
  refine ⟨fun result => ⟨fun h => h.unique hends, fun h => h ▸ hends⟩, ?_⟩
  constructor
  case once => exact hwalked.once
  case linked => exact fun q => mem_descendants_iff
  case distances => exact hdistances
  case order => exact horder
  case parents =>
    intro front q back hsplit
    have hlinked : ∀ p, Linked links root p → p ∈ front ++ q :: back :=
      fun p hp => hsplit ▸ mem_descendants_iff.2 hp
    rw [hsplit] at hdistances horder
    exact exists_parent_in_front hlinked hdistances horder

/-- Two processes that are parents of each other, and a child of each. -/
example : descendants [⟨4, 2⟩, ⟨3, 1⟩, ⟨1, 2⟩, ⟨2, 1⟩] 1 = [3, 2, 4, 1] := by
  decide

end PairingHarness.Host
