/-
What playing a command can do.

The played shell has many builtins and utilities, and all that the host ever
sees of them is here: a process starts a child, gets another name, ends, or
takes note of an ending, and each of these is noted as a change of the table
of processes at the time when it is made (`Move`). Files, links, pipes,
variables and streams are the actors' own business (`Quiet`).

Every function of the shell is a run of such moves (`Plays`), one lemma for
each of them in the order in which they call each other, up to a whole
settling (`plays_settle`). What is true of every move, such as that the
notes account for the table, is then proved of moves alone and does not
change when the shell learns another builtin.

The one condition is that a process that forks is on the scene: only an
actor that was found there is given a step (`settle`), so it is carried
through the lemmas as `a.pid ∈ s.cast`.
-/
import PairingHarness.Rehearsal.Shell.Programs
import Mathlib.Logic.Relation

namespace PairingHarness.Rehearsal.Shell

open Host

namespace Scene

-- ================================================================= moves

/-- The processes that have an actor. -/
def cast (s : Scene) : List Pid :=
  s.actors.map Actor.pid

/-- Nothing happened that the host could see: the table, the notes, the
clock and the processes that act are as they were. -/
structure Quiet (s s' : Scene) : Prop where
  table : s'.table = s.table
  changes : s'.changes = s.changes
  cast : s'.cast = s.cast
  clock : s'.clock = s.clock

/-- One thing that playing does to a scene. -/
inductive Move (s : Scene) : Scene → Prop
  | aside {s' : Scene} (hquiet : Quiet s s') : Move s s'
  | named (pid : Pid) (name : List UInt8) :
      Move s (s.change (.become pid name))
  | noticed (parent child : Pid) : Move s (s.change (.wait parent child))
  | ended (pid : Pid) (ending : Ending) : Move s (s.finish pid ending)
  /-- Only a process that is on the scene starts another. -/
  | forked {a : Actor} (hcast : a.pid ∈ s.cast) (streams : Streams)
      (tasks : List Task) : Move s (s.fork a streams tasks).2

/-- One move after another. -/
abbrev Plays : Scene → Scene → Prop :=
  Relation.ReflTransGen Move

variable {s s' s₁ : Scene} {a : Actor} {streams streams' : Streams}

theorem Quiet.refl (s : Scene) : Quiet s s :=
  ⟨rfl, rfl, rfl, rfl⟩

theorem Quiet.trans (h : Quiet s s₁) (h' : Quiet s₁ s') : Quiet s s' :=
  ⟨h'.table.trans h.table, h'.changes.trans h.changes,
    h'.cast.trans h.cast, h'.clock.trans h.clock⟩

theorem Quiet.plays (h : Quiet s s') : Plays s s' :=
  .single (.aside h)

/-- Going through a list is a run of moves if each round is one. -/
theorem plays_foldl {α σ : Type} {f : σ → α → σ} (scene : σ → Scene)
    (hround : ∀ state x, Plays (scene state) (scene (f state x)))
    (xs : List α) (state : σ) :
    Plays (scene state) (scene (xs.foldl f state)) := by
  induction xs generalizing state with
  | nil => exact .refl
  | cons x rest ih => exact (hround state x).trans (ih (f state x))

-- ================================================ what the host cannot see

/-- A new state of an actor is its own business, as long as it keeps its
number. -/
theorem quiet_put (s : Scene) (a : Actor) : Quiet s (s.put a) where
  table := rfl
  changes := rfl
  cast := by
    show (s.actors.map _).map Actor.pid = s.actors.map Actor.pid
    rw [List.map_map]
    refine List.map_congr_left fun b _ => ?_
    show (if b.pid = a.pid then a else b).pid = b.pid
    split
    · exact Eq.symm ‹b.pid = a.pid›
    · rfl
  clock := rfl

theorem plays_put (s : Scene) (a : Actor) : Plays s (s.put a) :=
  (quiet_put s a).plays

theorem quiet_write (s : Scene) (stream : Stream) (text : String) :
    Quiet s (s.write stream text) := by
  cases stream <;> exact ⟨rfl, rfl, rfl, rfl⟩

theorem quiet_openFile {direction : Direction} {path : String}
    {stream : Stream} (h : s.openFile direction path = some (stream, s')) :
    Quiet s s' := by
  unfold openFile at h
  split at h
  · cases h
    exact .refl s
  · cases direction with
    | readFrom =>
        dsimp only at h
        split at h
        · cases h
          exact .refl s
        · cases h
    | writeTo =>
        dsimp only at h
        split at h
        · cases h
          exact ⟨rfl, rfl, rfl, rfl⟩
        · cases h
    | appendTo =>
        dsimp only at h
        split at h
        · cases h
          exact quiet_write s _ _
        · cases h
    | sameAs => cases h

/-- Redirections open files and do nothing else, where all of them can be
opened. -/
theorem quiet_redirect {redirections : List Redirection}
    (h : s.redirect a streams redirections = some (streams', s')) :
    Quiet s s' := by
  induction redirections generalizing s streams with
  | nil =>
      cases h
      exact .refl _
  | cons r rest ih =>
      unfold redirect at h
      split at h
      · split at h
        · exact ih h
        · split at h
          · exact ih h
          · cases h
      · split at h
        · rename_i hopen
          exact (quiet_openFile hopen).trans (ih h)
        · cases h

theorem quiet_link (s : Scene) (target path : String) (replaces : Bool) :
    Quiet s (s.link target path replaces).2 := by
  unfold link
  dsimp only
  split
  · exact ⟨rfl, rfl, rfl, rfl⟩
  · exact .refl s

theorem quiet_makePipe (s : Scene) : Quiet s s.makePipe.2 :=
  ⟨rfl, rfl, rfl, rfl⟩

-- ======================================================= ends and signals

theorem plays_exit (s : Scene) (a : Actor) (status : Nat) :
    Plays s (s.exit a status) :=
  .single (.ended _ _)

/-- What a command writes it writes before it ends. -/
theorem plays_write_exit (s : Scene) (stream : Stream) (text : String)
    (a : Actor) (status : Nat) :
    Plays s ((s.write stream text).exit a status) :=
  (quiet_write s stream text).plays.trans (plays_exit _ a status)

theorem plays_goOn (s : Scene) (a : Actor) (status : Nat) :
    Plays s (s.goOn a status) :=
  plays_put s _

/-- A signal ends the one process that it is sent to, brings it to a stand,
or does nothing. -/
theorem plays_signal (s : Scene) (number : Nat) (pid : Pid) :
    Plays s (s.signal number pid).2 := by
  unfold signal
  cases s.actors.find? (·.pid = pid) with
  | none => exact .refl
  | some a =>
      dsimp only
      split
      · exact .refl
      · split
        · exact plays_put s _
        · exact .single (.ended _ _)

theorem plays_signalAll (s : Scene) (a : Actor) (number : Nat)
    (pids : List Pid) : Plays s (s.signalAll a number pids) := by
  unfold signalAll
  dsimp only
  have hsent := plays_foldl
    (f := fun (state : Bool × Scene) (pid : Pid) =>
      (state.1 && (state.2.signal number pid).1,
        (state.2.signal number pid).2))
    Prod.snd (fun state pid => plays_signal state.2 number pid) pids (true, s)
  refine hsent.trans ?_
  split
  · exact plays_put _ _
  · exact .refl

-- =============================================================== children

/-- Whoever is on the scene can start a child and see to it. -/
theorem plays_fork_put (hcast : a.pid ∈ s.cast) (streams : Streams)
    (tasks : List Task) (b : Actor) :
    Plays s ((s.fork a streams tasks).2.put b) :=
  .tail (.single (.forked hcast streams tasks)) (.aside (quiet_put _ b))

/-- A fork takes nobody off the scene. -/
theorem mem_cast_fork {q : Pid} (hq : q ∈ s.cast) (b : Actor)
    (streams : Streams) (tasks : List Task) :
    q ∈ (s.fork b streams tasks).2.cast := by
  show q ∈ List.map Actor.pid (s.actors ++ _)
  rw [List.map_append]
  exact List.mem_append_left _ hq

theorem plays_delegate (hcast : a.pid ∈ s.cast) (streams : Streams)
    (tasks : List Task) : Plays s (s.delegate a streams tasks) :=
  plays_fork_put hcast streams tasks _

/-- A pipeline is a fork for each of its stages, with a pipe before each
but the last. -/
theorem plays_playStages (hcast : a.pid ∈ s.cast) (input : Stream)
    (children : List Pid) (commands : List Command) :
    Plays s (s.playStages a input children commands) := by
  induction commands generalizing s input children with
  | nil => exact plays_put s _
  | cons c rest ih =>
      cases rest with
      | nil => exact plays_fork_put hcast _ _ _
      | cons c' rest =>
          have hpipe := quiet_makePipe s
          have hcast' : a.pid ∈ s.makePipe.2.cast := hpipe.cast ▸ hcast
          exact (hpipe.plays.tail (.forked hcast' _ _)).trans
            (ih (mem_cast_fork hcast' a _ _) _ _)

-- =============================================================== commands

theorem plays_playBuiltin (s : Scene) (a : Actor) (streams : Streams)
    (name : String) (args : List String) :
    Plays s (s.playBuiltin a streams name args) := by
  unfold playBuiltin
  split
  -- only the line of an eval may be no command
  all_goals try split
  all_goals first | exact plays_put s _ | exact plays_exit s _ _

theorem plays_playOwn (s : Scene) (a : Actor) (streams : Streams)
    (words : List String) : Plays s (s.playOwn a streams words) := by
  unfold playOwn
  split
  · exact (quiet_write s _ _).plays.trans (plays_goOn _ a _)
  · exact plays_signalAll s a _ _
  · exact plays_goOn s a _

theorem plays_playSimple (hcast : a.pid ∈ s.cast)
    (assignments : List (String × Word)) (words : List Word)
    (redirections : List Redirection) :
    Plays s (s.playSimple a assignments words redirections) := by
  unfold playSimple
  dsimp only
  split
  · split
    · exact plays_exit s a _
    · exact plays_goOn s a _
  · rename_i streams s₁ hredirect
    have hquiet := quiet_redirect hredirect
    have hcast₁ : a.pid ∈ s₁.cast := hquiet.cast ▸ hcast
    refine hquiet.plays.trans ?_
    split
    · exact plays_goOn s₁ _ _
    · split
      · exact plays_playBuiltin s₁ _ _ _ _
      · split
        · exact plays_playOwn s₁ a _ _
        · split
          · exact plays_put s₁ _
          · exact plays_fork_put (a := exportAll (a.assign _) _) hcast₁ _ _ _

theorem plays_playRedirected (s : Scene) (a : Actor) (body : Command)
    (redirections : List Redirection) :
    Plays s (s.playRedirected a body redirections) := by
  unfold playRedirected
  split
  · exact plays_put s _
  · split
    · exact plays_goOn s a _
    · rename_i hredirect
      exact (quiet_redirect hredirect).plays.trans (plays_put _ _)

theorem plays_playCommand (hcast : a.pid ∈ s.cast) (c : Command) :
    Plays s (s.playCommand a c) := by
  cases c with
  | nothing => exact plays_goOn s a 0
  | simple assignments words redirections =>
      exact plays_playSimple hcast assignments words redirections
  | background body => exact plays_fork_put hcast _ _ _
  | piped first next => exact plays_playStages hcast _ _ _
  | subshell body redirections =>
      unfold playCommand
      dsimp only
      split
      · exact plays_playRedirected s a body redirections
      · exact plays_delegate hcast _ _
  | group body redirections => exact plays_playRedirected s a body redirections
  | _ => exact plays_put s _

/-- Whatever a process becomes, it gets the name first. -/
theorem plays_become (s : Scene) (a : Actor) (words : List String) :
    Plays s (s.become a words) := by
  unfold become
  dsimp only
  refine (Relation.ReflTransGen.single (.named a.pid
    (Conduct.processName (words.headD "")))).trans ?_
  generalize s.change _ = s₁
  split
  · exact plays_write_exit s₁ _ _ a _
  · split
    · split
      · exact plays_put s₁ _
      · exact plays_write_exit s₁ _ _ a _
    · exact plays_write_exit s₁ _ _ a _
  · exact plays_put s₁ _
  · exact plays_put s₁ _
  · exact plays_signalAll s₁ _ _ _
  · exact (quiet_link s₁ _ _ _).plays.trans (plays_exit _ a _)
  · exact plays_put s₁ _
  · split
    · exact plays_put s₁ _
    · exact plays_exit s₁ _ _

-- ================================================================== steps

/-- One step of an actor that is on the scene. -/
theorem plays_step (hcast : a.pid ∈ s.cast) : Plays s (s.step a) := by
  unfold step
  cases a.tasks with
  | nil => exact plays_exit s a _
  | cons task rest =>
      cases task with
      | run c => exact plays_playCommand (a := { a with tasks := rest }) hcast c
      | become words => exact plays_become s _ words
      | onStatus success c =>
          dsimp only
          split <;> exact plays_put s _
      | negate => exact plays_goOn s _ _
      | choose yes no => exact plays_put s _
      | iterate isUntil condition body =>
          dsimp only
          split <;> exact plays_put s _
      | restore streams => exact plays_put s _

/-- Who takes note of an ending stays on the scene, and so does whoever
else is there. -/
theorem cast_noticed (s : Scene) (parent : Pid) (children : List Pid) :
    (children.foldl (fun state pid => state.change (.wait parent pid))
      s).cast = s.cast := by
  induction children generalizing s with
  | nil => rfl
  | cons pid rest ih => exact ih (s.change (.wait parent pid))

/-- An actor that wakes takes note of the endings that it waited for, and
stays where and who it is. -/
theorem plays_wake (s : Scene) (a : Actor) :
    Plays s (s.wake a).1 ∧ (s.wake a).1.cast = s.cast
      ∧ (s.wake a).2.pid = a.pid := by
  unfold wake
  dsimp only
  split
  · rename_i pids last _
    exact ⟨plays_foldl id (fun state pid => .single (.noticed a.pid pid))
      pids s, cast_noticed s a.pid pids, rfl⟩
  · exact ⟨.refl, rfl, rfl⟩

/-- A settling is a run of moves, however long it is. -/
theorem plays_settle (steps : Nat) (s : Scene) :
    Plays s (s.settle steps) := by
  induction steps generalizing s with
  | zero => exact .refl
  | succ steps ih =>
      unfold settle
      cases hfound : s.actors.find? s.isReady with
      | none => exact .refl
      | some a =>
          obtain ⟨hwake, hsame, hpid⟩ := plays_wake s a
          have hcast : (s.wake a).2.pid
              ∈ ((s.wake a).1.put (s.wake a).2).cast := by
            rw [(quiet_put _ _).cast, hsame, hpid]
            exact List.mem_map_of_mem (List.mem_of_find?_eq_some hfound)
          exact ((hwake.trans (plays_put _ _)).trans
            (plays_step hcast)).trans (ih _)

end Scene

end PairingHarness.Rehearsal.Shell
