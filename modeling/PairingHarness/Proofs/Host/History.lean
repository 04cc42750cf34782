/-
What happened on a host.

The annals of a host follow from what the harness did there: every table
of processes that there was, who was started by whom, and who ended other
than by the harness's hand. They are kept beside the host for proofs only
(`Machine.annals`), and their last table is the host's
(`IsGenuine.table_annals`).

Whatever the harness does is a run of deeds (`Machine.Goes`), and what
every deed and every change leaves true is true after each run
(`Goes.keeps`). So a process that is known and does not run never runs
again (`Goes.follows`), and one that runs does so until it ends or the
harness ends it (`Goes.runs_on`).

The programs are any at all, so there is nothing to do an induction on
but the deeds, and within one deed its changes. Both are packed into one
principle, `Goes.keeps`: what holds at first, what each deed of its own
keeps and what each change keeps holds in the end. Every statement below
about what lasts is an instance of it with a property that is checked
for the two kinds of step.
-/
import PairingHarness.Host.Machine
import PairingHarness.Proofs.Host.Table

namespace PairingHarness.Host

-- ================================================================ annals

/-- What happened on a host. -/
structure Annals where
  /-- The processes as they are. -/
  table : Table
  /-- As they were, latest first. -/
  earlier : List Table
  /-- The processes that were started by others, with those that did. -/
  forks : List Link
  /-- The processes that ended, those left out that the harness ended. -/
  ends : List Pid

namespace Annals

/-- Nothing happened. -/
def empty : Annals :=
  ⟨.empty, [], [], []⟩

/-- The processes at all times, latest first. -/
def moments (a : Annals) : List Table :=
  a.table :: a.earlier

/-- Another table follows, and the one until now is kept with the earlier
ones. -/
def turn (a : Annals) (t : Table) : Annals :=
  { a with table := t, earlier := a.moments }

/-- A change is noted. -/
def note (a : Annals) (change : Table.Change) : Annals :=
  { a.turn (a.table.apply change) with
    forks := (a.table.born? change).toList ++ a.forks
    ends := (a.table.ended? change).toList ++ a.ends }

/-- Noting changes one by one makes the table that they make of it. -/
theorem table_foldl_note (a : Annals) (changes : List Table.Change) :
    (changes.foldl note a).table = a.table.applyAll changes := by
  induction changes generalizing a with
  | nil => rfl
  | cons change rest ih => exact ih (a.note change)

end Annals

/-- What happened on a host with these programs until the latest of these
deeds was over. -/
def Programs.annals (programs : Programs) : List Deed → Annals
  | [] => .empty
  | deed :: past =>
      let a := programs.annals past
      (programs.changes (deed :: past)).foldl .note
        (a.turn ((Machine.mk programs past a.table).struck deed))

namespace Machine

/-- What happened on a host. -/
def annals (m : Machine) : Annals :=
  m.programs.annals m.deeds

-- ================================================================== runs

/-- Whether a deed can be done: a launch gives the next number. -/
def Fits (m : Machine) : Deed → Prop
  | .launched pid _ => pid = m.table.next
  | _ => True

/-- The harness does one deed after another, noted latest first. -/
inductive Goes (m : Machine) : List Deed → Machine → Prop
  | none : Goes m [] m
  | more {deeds : List Deed} {m₁ : Machine} {deed : Deed}
      (h : Goes m deeds m₁) (hfits : m₁.Fits deed) :
      Goes m (deed :: deeds) (m₁.perform deed)

/-- A host as the harness's deeds left it. -/
def IsGenuine (m : Machine) : Prop :=
  (start m.programs).Goes m.deeds m

variable {m m₁ m' : Machine} {deeds deeds' : List Deed} {deed : Deed}
  {q : Pid}

/-- A run does not change the programs. -/
theorem Goes.programs_eq (h : m.Goes deeds m') :
    m'.programs = m.programs := by
  induction h with
  | none => rfl
  | more _ _ ih => exact ih

/-- The host remembers a run in its order, latest first. -/
theorem Goes.deeds_eq (h : m.Goes deeds m') :
    m'.deeds = deeds ++ m.deeds := by
  induction h with
  | none => rfl
  | @more _ _ deed _ _ ih => exact congrArg (deed :: ·) ih

/-- A deed that can be done is a run of its own. -/
theorem Goes.one (hfits : m.Fits deed) : m.Goes [deed] (m.perform deed) :=
  .more .none hfits

theorem goes_sleep (m : Machine) (ms : Nat) :
    m.Goes [.slept ms] (m.sleep ms) :=
  .more .none trivial

theorem goes_kill (m : Machine) (pid : Pid) :
    m.Goes [.killed pid] (m.kill pid) :=
  .more .none trivial

theorem goes_reap (m : Machine) (pid : Pid) :
    m.Goes [.reaped pid] (m.reap pid) :=
  .more .none trivial

/-- A run after a run is a run. -/
theorem Goes.trans (h : m.Goes deeds m₁) (h' : m₁.Goes deeds' m') :
    m.Goes (deeds' ++ deeds) m' := by
  induction h' with
  | none => exact h
  | more _ hfits ih => exact .more ih hfits

/-- A host on which nothing happened is as no deeds left it. -/
theorem isGenuine_start (programs : Programs) :
    (start programs).IsGenuine :=
  .none

/-- Where the deeds before a run account for the host, those with the run
account for it afterwards. -/
theorem Goes.isGenuine (h : m.Goes deeds m') (hm : m.IsGenuine) :
    m'.IsGenuine := by
  have hall := Goes.trans hm h
  unfold IsGenuine
  rw [h.programs_eq, h.deeds_eq]
  exact hall

/-- What a deed adds to the annals: a table of its own and the changes
that the programs make of it. -/
theorem annals_perform (h : m.annals.table = m.table) (deed : Deed) :
    (m.perform deed).annals
      = (m.programs.changes (deed :: m.deeds)).foldl .note
          (m.annals.turn (m.struck deed)) := by
  have hpast : Machine.mk m.programs m.deeds m.annals.table = m := by
    rw [h]
  show List.foldl Annals.note (m.annals.turn
    ((Machine.mk m.programs m.deeds m.annals.table).struck deed)) _ = _
  rw [hpast]
  rfl

/-- The annals end with the processes as they are. -/
theorem IsGenuine.table_annals (h : m.IsGenuine) :
    m.annals.table = m.table := by
  unfold IsGenuine at h
  generalize m.deeds = deeds, m.programs = programs at h
  induction h with
  | none => rfl
  | more _ _ ih =>
      rw [annals_perform ih, Annals.table_foldl_note]
      rfl

/-- What holds of the annals, each deed keeps and each change keeps is
true after each run. -/
theorem Goes.induction {P : List Deed → Annals → Prop}
    (h : m.Goes deeds m') (hm : m.IsGenuine) (hstart : P [] m.annals)
    (hdeed : ∀ {m₁ : Machine} {deeds : List Deed} {a : Annals}
      {deed : Deed}, a.table = m₁.table → m₁.Fits deed → P deeds a →
      P (deed :: deeds) (a.turn (m₁.struck deed)))
    (hnote : ∀ {deeds : List Deed} {a : Annals} (change : Table.Change),
      P deeds a → P deeds (a.note change)) : P deeds m'.annals := by
  have hnotes : ∀ (deeds : List Deed) (changes : List Table.Change)
      (a : Annals), P deeds a → P deeds (changes.foldl .note a) := by
    intro deeds changes
    induction changes with
    | nil => exact fun a ha => ha
    | cons change rest ih => exact fun a ha => ih _ (hnote change ha)
  induction h with
  | none => exact hstart
  | more h hfits ih =>
      have htable := (h.isGenuine hm).table_annals
      rw [annals_perform htable]
      exact hnotes _ _ _ (hdeed htable hfits ih)

-- ======================================================= one deed alone

/-- What a deed does of its own leaves the numbers in order. -/
theorem ordered_struck (h : m.table.Ordered) (deed : Deed) :
    (m.struck deed).Ordered := by
  cases deed with
  | launched pid l => exact h.start harnessPid shellName
  | slept ms => exact h
  | killed pid =>
      simp only [struck]
      split
      · exact h
      · exact h.finish pid _
  | reaped pid => exact (h.finish pid _).forget harnessPid pid

/-- A deed of its own starts the process that it launches and no other. -/
theorem isRunning_of_struck (h : m.table.Ordered) (hfits : m.Fits deed)
    (hrunning : (m.struck deed).isRunning q = true) :
    m.table.isRunning q = true
      ∨ q = m.table.next ∧ ∃ l, deed = .launched q l := by
  cases deed with
  | launched pid l =>
      obtain rfl : pid = m.table.next := hfits
      rcases (h.isRunning_start _ _).1 hrunning with hold | rfl
      · exact .inl hold
      · exact .inr ⟨rfl, l, rfl⟩
  | slept ms => exact .inl hrunning
  | killed pid =>
      simp only [struck] at hrunning
      split at hrunning
      · exact .inl hrunning
      · exact .inl ((h.isRunning_finish _ _).1 hrunning).1
  | reaped pid =>
      rw [struck, (h.finish pid _).isRunning_forget,
        h.isRunning_finish] at hrunning
      exact .inl hrunning.1

/-- A deed of its own ends the process that it is to end and no other. -/
theorem isRunning_struck (h : m.table.Ordered)
    (hrunning : m.table.isRunning q = true) (hkilled : deed ≠ .killed q)
    (hreaped : deed ≠ .reaped q) : (m.struck deed).isRunning q = true := by
  cases deed with
  | launched pid l => exact (h.isRunning_start _ _).2 (.inl hrunning)
  | slept ms => exact hrunning
  | killed pid =>
      have hne : q ≠ pid := fun heq => hkilled (by rw [heq])
      simp only [struck]
      split
      · exact hrunning
      · exact (h.isRunning_finish _ _).2 ⟨hrunning, hne⟩
  | reaped pid =>
      have hne : q ≠ pid := fun heq => hreaped (by rw [heq])
      rw [struck, (h.finish pid _).isRunning_forget, h.isRunning_finish]
      exact ⟨hrunning, hne⟩

/-- No deed gives a number back. -/
theorem next_le_struck (m : Machine) (deed : Deed) :
    m.table.next ≤ (m.struck deed).next := by
  cases deed with
  | launched pid l => exact Nat.le_succ _
  | slept ms => exact Nat.le_refl _
  | killed pid =>
      simp only [struck]
      split
      · exact Nat.le_refl _
      · exact Nat.le_of_eq (Table.next_finish _ _ _).symm
  | reaped pid => exact Nat.le_of_eq (Table.next_finish _ _ _).symm

-- ========================================================== what follows

end Machine

/-- A table is followed by another: no number is given twice, so none that
was given begins to run. -/
structure Table.Follows (t t' : Table) : Prop where
  next : t.next ≤ t'.next
  fades : ∀ {q}, q < t.next → t'.isRunning q = true → t.isRunning q = true

namespace Table

variable {t t₁ t' : Table}

theorem Follows.refl (t : Table) : t.Follows t :=
  ⟨Nat.le_refl _, fun _ h => h⟩

/-- What follows a table that follows another follows that one too. -/
theorem Follows.trans (h : t.Follows t₁) (h' : t₁.Follows t') :
    t.Follows t' :=
  ⟨Nat.le_trans h.next h'.next, fun hq hrunning =>
    h.fades hq (h'.fades (Nat.lt_of_lt_of_le hq h.next) hrunning)⟩

/-- A change leads to a table that follows: the one number that it may give
is new. -/
theorem Ordered.follows_apply (h : t.Ordered) (change : Change) :
    t.Follows (t.apply change) where
  next := next_le_apply t change
  fades := fun hq hrunning => by
    rcases (h.isRunning_apply change).1 hrunning with hold | ⟨p, hborn⟩
    · exact hold.1
    · exact absurd (born?_eq_some hborn).1 (Nat.ne_of_lt hq)

/-- And so do changes in a row. -/
theorem Ordered.follows_applyAll (h : t.Ordered) (changes : List Change) :
    t.Follows (t.applyAll changes) := by
  induction changes generalizing t with
  | nil => exact .refl t
  | cons change rest ih =>
      exact (h.follows_apply change).trans (ih (h.apply change))

end Table

namespace Annals

/-- What is true of all annals: tables are ordered, each followed by the
last one, and who ended does not run. -/
structure Sound (a : Annals) : Prop where
  ordered : ∀ t ∈ a.moments, t.Ordered
  follows : ∀ t ∈ a.moments, t.Follows a.table
  gone : ∀ q ∈ a.ends, q < a.table.next ∧ a.table.isRunning q ≠ true

variable {a : Annals} {t : Table}

theorem Sound.now (h : a.Sound) : a.table.Ordered :=
  h.ordered _ List.mem_cons_self

theorem sound_empty : empty.Sound where
  ordered := fun t ht => by
    obtain rfl := List.mem_singleton.1 ht
    exact Table.ordered_empty
  follows := fun t ht => by
    obtain rfl := List.mem_singleton.1 ht
    exact .refl _
  gone := fun _ h => absurd h List.not_mem_nil

/-- Sound annals stay sound where the next table is ordered and follows the
last one. -/
theorem Sound.turn (h : a.Sound) (hordered : t.Ordered)
    (hfollows : a.table.Follows t) : (a.turn t).Sound where
  ordered := fun t' ht' => by
    rcases List.mem_cons.1 ht' with rfl | ht'
    · exact hordered
    · exact h.ordered t' ht'
  follows := fun t' ht' => by
    rcases List.mem_cons.1 ht' with rfl | ht'
    · exact .refl _
    · exact (h.follows t' ht').trans hfollows
  gone := fun q hq => by
    obtain ⟨hlt, hgone⟩ := h.gone q hq
    exact ⟨Nat.lt_of_lt_of_le hlt hfollows.next,
      fun hrunning => hgone (hfollows.fades hlt hrunning)⟩

/-- A change keeps annals sound, and whoever it ends is then in the list of
those that ended. -/
theorem Sound.note (h : a.Sound) (change : Table.Change) :
    (a.note change).Sound := by
  have hturn := h.turn (h.now.apply change) (h.now.follows_apply change)
  refine ⟨hturn.ordered, hturn.follows, fun q hq => ?_⟩
  rcases List.mem_append.1 hq with hnew | hold
  · have hended := Option.mem_toList.1 hnew
    have hlt := h.now.lt_of_isRunning (Table.isRunning_of_ended? hended)
    refine ⟨Nat.lt_of_lt_of_le hlt (Table.next_le_apply _ change),
      fun hrunning => ?_⟩
    rcases (h.now.isRunning_apply change).1 hrunning with hold | ⟨p, hborn⟩
    · exact hold.2 hended
    · exact Nat.ne_of_lt hlt (Table.born?_eq_some hborn).1
  · exact hturn.gone q hold

end Annals

namespace Machine

variable {m m₁ m' : Machine} {deeds deeds' : List Deed} {deed : Deed}
  {q : Pid}

/-- So does what a deed does of its own. -/
theorem sound_struck {a : Annals} (h : a.Sound)
    (htable : a.table = m.table) (hfits : m.Fits deed) :
    (a.turn (m.struck deed)).Sound := by
  have hordered : m.table.Ordered := htable ▸ h.now
  refine h.turn (ordered_struck hordered deed) ?_
  rw [htable]
  refine ⟨next_le_struck m deed, fun hq hrunning => ?_⟩
  rcases isRunning_of_struck hordered hfits hrunning with hold | ⟨rfl, -⟩
  · exact hold
  · exact absurd hq (Nat.lt_irrefl _)

/-- The annals of every host are sound. -/
theorem IsGenuine.sound (h : m.IsGenuine) : m.annals.Sound :=
  Goes.induction (P := fun _ a => a.Sound) h (isGenuine_start m.programs)
    Annals.sound_empty (fun htable hfits ha => sound_struck ha htable hfits)
    fun change ha => ha.note change

/-- The numbers of every host are in order. -/
theorem IsGenuine.ordered (h : m.IsGenuine) : m.table.Ordered :=
  h.table_annals ▸ h.sound.now

/-- What every deed and every change of sound annals leaves true is true
after each run. -/
theorem Goes.keeps {P : List Deed → Annals → Prop}
    (h : m.Goes deeds m') (hm : m.IsGenuine) (hstart : P [] m.annals)
    (hdeed : ∀ {m₁ : Machine} {deeds : List Deed} {a : Annals}
      {deed : Deed}, a.Sound → a.table = m₁.table → m₁.Fits deed →
      P deeds a → P (deed :: deeds) (a.turn (m₁.struck deed)))
    (hnote : ∀ {deeds : List Deed} {a : Annals} (change : Table.Change),
      a.Sound → P deeds a → P deeds (a.note change)) :
    P deeds m'.annals :=
  (Goes.induction (P := fun deeds a => a.Sound ∧ P deeds a) h hm
    ⟨hm.sound, hstart⟩
    (fun htable hfits ha => ⟨sound_struck ha.1 htable hfits,
      hdeed ha.1 htable hfits ha.2⟩)
    fun change ha => ⟨ha.1.note change, hnote change ha.1 ha.2⟩).2

-- ================================================== what runs shows later

/-- What was once is in the annals for ever. -/
theorem Goes.moments_subset (h : m.Goes deeds m') (hm : m.IsGenuine) :
    m.annals.moments ⊆ m'.annals.moments :=
  h.keeps (P := fun _ a => m.annals.moments ⊆ a.moments) hm
    (fun _ ht => ht)
    (fun _ _ _ ha _ ht => List.mem_cons_of_mem _ (ha ht))
    (fun _ _ ha _ ht => List.mem_cons_of_mem _ (ha ht))

/-- What is on a host after a run follows what was there before it. -/
theorem Goes.follows (h : m.Goes deeds m') (hm : m.IsGenuine) :
    m.table.Follows m'.table := by
  have hm' := h.isGenuine hm
  rw [← hm.table_annals, ← hm'.table_annals]
  exact hm'.sound.follows _ (h.moments_subset hm List.mem_cons_self)

/-- A process that is known and does not run never runs again. -/
theorem Goes.not_isRunning (h : m.Goes deeds m') (hm : m.IsGenuine)
    (hlt : q < m.table.next) (hdead : m.table.isRunning q ≠ true) :
    m'.table.isRunning q ≠ true :=
  fun hrunning => hdead ((h.follows hm).fades hlt hrunning)

/-- What a deed of its own leaves is followed by what it leads to. -/
theorem IsGenuine.struck_follows (h : m.IsGenuine) (hfits : m.Fits deed) :
    (m.struck deed).Follows (m.perform deed).table := by
  have hkept : ∀ (changes : List Table.Change) (a : Annals),
      a.moments ⊆ (changes.foldl .note a).moments := by
    intro changes
    induction changes with
    | nil => exact fun a t ht => ht
    | cons change rest ih =>
        exact fun a t ht => ih _ (List.mem_cons_of_mem _ ht)
  have hnext := (Goes.one hfits).isGenuine h
  have hmem : m.struck deed ∈ (m.perform deed).annals.moments := by
    rw [annals_perform h.table_annals]
    exact hkept _ _ List.mem_cons_self
  rw [← hnext.table_annals]
  exact hnext.sound.follows _ hmem

/-- What a deed of its own ends stays dead, whatever the programs make of
that deed. -/
theorem IsGenuine.not_isRunning_perform (h : m.IsGenuine)
    (hfits : m.Fits deed) (hlt : q < m.table.next)
    (hdead : (m.struck deed).isRunning q ≠ true) :
    (m.perform deed).table.isRunning q ≠ true :=
  fun hrunning => hdead ((h.struck_follows hfits).fades
    (Nat.lt_of_lt_of_le hlt (next_le_struck m deed)) hrunning)

/-- Once note was taken of its ending, a process does not run. -/
theorem IsGenuine.not_isRunning_reap (h : m.IsGenuine)
    (hlt : q < m.table.next) : (m.reap q).table.isRunning q ≠ true := by
  have hfits : m.Fits (.reaped q) := trivial
  refine h.not_isRunning_perform hfits hlt ?_
  intro hrunning
  rw [struck, (h.ordered.finish q _).isRunning_forget,
    h.ordered.isRunning_finish] at hrunning
  exact hrunning.2 rfl

/-- Where a killed process does not linger, it does not run. -/
theorem IsGenuine.not_isRunning_kill (h : m.IsGenuine)
    (hlt : q < m.table.next)
    (hprompt : m.programs.lingers m.deeds q = false) :
    (m.kill q).table.isRunning q ≠ true := by
  have hfits : m.Fits (.killed q) := trivial
  refine h.not_isRunning_perform hfits hlt ?_
  intro hrunning
  rw [struck, hprompt] at hrunning
  exact ((h.ordered.isRunning_finish q _).1 hrunning).2 rfl

/-- Every table on the way is one of before or follows the one that was
there at first. -/
theorem Goes.before_or_follows (h : m.Goes deeds m') (hm : m.IsGenuine)
    {t : Table} (ht : t ∈ m'.annals.moments) :
    t ∈ m.annals.moments ∨ m.table.Follows t := by
  have hfirst := hm.table_annals
  refine h.keeps (P := fun _ a => m.table.Follows a.table
    ∧ ∀ t ∈ a.moments, t ∈ m.annals.moments ∨ m.table.Follows t) hm
    ⟨hfirst ▸ .refl _, fun t ht => .inl ht⟩ ?_ ?_ |>.2 t ht
  · intro m₁ deeds a deed hsound htable hfits ⟨hfollows, hall⟩
    have hnow := hfollows.trans
      ((sound_struck hsound htable hfits).follows a.table
        (List.mem_cons_of_mem _ List.mem_cons_self))
    exact ⟨hnow, fun t ht => (List.mem_cons.1 ht).elim
      (fun heq => .inr (heq ▸ hnow)) (hall t)⟩
  · intro deeds a change hsound ⟨hfollows, hall⟩
    have hnow := hfollows.trans (hsound.now.follows_apply change)
    exact ⟨hnow, fun t ht => (List.mem_cons.1 ht).elim
      (fun heq => .inr (heq ▸ hnow)) (hall t)⟩

-- =============================================================== launches

/-- A process that the harness launched. -/
def Launched (m : Machine) (pid : Pid) : Prop :=
  ∃ l, .launched pid l ∈ m.deeds

/-- Who was launched after a run was launched in it or before it. -/
theorem Goes.launched_iff (h : m.Goes deeds m') :
    m'.Launched q ↔ (∃ l, .launched q l ∈ deeds) ∨ m.Launched q := by
  unfold Launched
  rw [h.deeds_eq]
  simp only [List.mem_append, exists_or]

/-- A launch gives a number that was not given before. -/
theorem Goes.range_of_launched (h : m.Goes deeds m') (hm : m.IsGenuine)
    {l : Launch} (hl : .launched q l ∈ deeds) :
    m.table.next ≤ q ∧ q < m'.table.next := by
  rw [← hm.table_annals, ← (h.isGenuine hm).table_annals]
  refine h.keeps (P := fun deeds a => m.annals.table.next ≤ a.table.next
    ∧ ∀ q l, .launched q l ∈ deeds →
      m.annals.table.next ≤ q ∧ q < a.table.next) hm
    ⟨Nat.le_refl _, fun _ _ h => absurd h List.not_mem_nil⟩ ?_ ?_ |>.2 q l hl
  · intro m₁ deeds a deed _ htable hfits ⟨hle, hall⟩
    have hnext : a.table.next ≤ (m₁.struck deed).next :=
      htable ▸ next_le_struck m₁ deed
    refine ⟨Nat.le_trans hle hnext, fun q l hl => ?_⟩
    rcases List.mem_cons.1 hl with rfl | hl
    · obtain rfl : q = a.table.next := htable ▸ hfits
      refine ⟨hle, ?_⟩
      show a.table.next < m₁.table.next + 1
      rw [htable]
      exact Nat.lt_succ_self _
    · exact ⟨(hall q l hl).1, Nat.lt_of_lt_of_le (hall q l hl).2 hnext⟩
  · intro deeds a change _ ⟨hle, hall⟩
    have hnext := Table.next_le_apply a.table change
    exact ⟨Nat.le_trans hle hnext, fun q l hl => ⟨(hall q l hl).1,
      Nat.lt_of_lt_of_le (hall q l hl).2 hnext⟩⟩

/-- A launched process has a number that was given. -/
theorem IsGenuine.lt_of_launched (h : m.IsGenuine) (hq : m.Launched q) :
    q < m.table.next :=
  hq.elim fun _ hl =>
    (Goes.range_of_launched h (isGenuine_start m.programs) hl).2

/-- And one that is not the harness's own. -/
theorem IsGenuine.real_of_launched (h : m.IsGenuine)
    (hq : m.Launched q) : harnessPid < q :=
  hq.elim fun _ hl =>
    (Goes.range_of_launched h (isGenuine_start m.programs) hl).1

-- ================================================================== ends

/-- Who ended does not run. -/
theorem IsGenuine.not_isRunning_of_ends (h : m.IsGenuine)
    (hq : q ∈ m.annals.ends) : m.table.isRunning q ≠ true :=
  h.table_annals ▸ (h.sound.gone q hq).2

/-- A process runs, or it ended and not by the harness's hand. -/
def RunsOrEnded (a : Annals) (q : Pid) : Prop :=
  a.table.isRunning q = true ∨ q ∈ a.ends

/-- A deed of its own ends no process but the one that it names. -/
theorem runsOrEnded_struck {a : Annals} (hsound : a.Sound)
    (htable : a.table = m.table) (h : RunsOrEnded a q)
    (hkilled : deed ≠ .killed q) (hreaped : deed ≠ .reaped q) :
    RunsOrEnded (a.turn (m.struck deed)) q := by
  rcases h with hruns | hends
  · rw [htable] at hruns
    exact .inl (isRunning_struck (htable ▸ hsound.now) hruns hkilled hreaped)
  · exact .inr hends

/-- A change that ends a process has it among those that ended. -/
theorem runsOrEnded_note {a : Annals} (hsound : a.Sound)
    (h : RunsOrEnded a q) (change : Table.Change) :
    RunsOrEnded (a.note change) q := by
  rcases h with hruns | hends
  · by_cases hended : a.table.ended? change = some q
    · exact .inr (List.mem_append_left _ (Option.mem_toList.2 hended))
    · exact .inl ((hsound.now.isRunning_apply change).2
        (.inl ⟨hruns, hended⟩))
  · exact .inr (List.mem_append_right _ hends)

/-- What runs and is not ended by the harness runs on until it ends. -/
theorem Goes.runs_on (h : m.Goes deeds m') (hm : m.IsGenuine)
    (hruns : m.table.isRunning q = true) (hkilled : .killed q ∉ deeds)
    (hreaped : .reaped q ∉ deeds) : RunsOrEnded m'.annals q := by
  rw [← hm.table_annals] at hruns
  refine h.keeps (P := fun deeds a => .killed q ∉ deeds →
    .reaped q ∉ deeds → RunsOrEnded a q) hm (fun _ _ => .inl hruns)
    ?_ ?_ hkilled hreaped
  · intro m₁ deeds a deed hsound htable _ ih hkilled hreaped
    exact runsOrEnded_struck hsound htable
      (ih (List.not_mem_of_not_mem_cons hkilled)
        (List.not_mem_of_not_mem_cons hreaped))
      (List.ne_of_not_mem_cons hkilled).symm
      (List.ne_of_not_mem_cons hreaped).symm
  · intro deeds a change hsound ih hkilled hreaped
    exact runsOrEnded_note hsound (ih hkilled hreaped) change

/-- So does what was forked on the way. -/
theorem Goes.runs_on_of_forked (h : m.Goes deeds m') (hm : m.IsGenuine)
    {p : Pid} (hlink : ⟨q, p⟩ ∈ m'.annals.forks)
    (hnew : ⟨q, p⟩ ∉ m.annals.forks) (hkilled : .killed q ∉ deeds)
    (hreaped : .reaped q ∉ deeds) : RunsOrEnded m'.annals q := by
  refine h.keeps (P := fun deeds a => ⟨q, p⟩ ∈ a.forks →
    .killed q ∉ deeds → .reaped q ∉ deeds → RunsOrEnded a q) hm
    (fun hlink => absurd hlink hnew) ?_ ?_ hlink hkilled hreaped
  · intro m₁ deeds a deed hsound htable _ ih hlink hkilled hreaped
    exact runsOrEnded_struck hsound htable
      (ih hlink (List.not_mem_of_not_mem_cons hkilled)
        (List.not_mem_of_not_mem_cons hreaped))
      (List.ne_of_not_mem_cons hkilled).symm
      (List.ne_of_not_mem_cons hreaped).symm
  · intro deeds a change hsound ih hlink hkilled hreaped
    rcases List.mem_append.1 hlink with hborn | hold
    · exact .inl ((hsound.now.isRunning_apply change).2
        (.inr ⟨p, Option.mem_toList.1 hborn⟩))
    · exact runsOrEnded_note hsound (ih hold hkilled hreaped) change

/-- A process that runs or ended runs just where it did not end. -/
theorem IsGenuine.isRunning_iff_of_runsOrEnded (h : m.IsGenuine)
    (hq : RunsOrEnded m.annals q) :
    m.table.isRunning q = true ↔ q ∉ m.annals.ends := by
  refine ⟨fun hruns hends => h.not_isRunning_of_ends hends hruns,
    fun hends => ?_⟩
  rw [← h.table_annals]
  exact hq.resolve_right hends

end Machine

end PairingHarness.Host
