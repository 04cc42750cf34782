/-
Playing commands.

An actor that is ready takes the first of its tasks and does one step of it;
the scene is settled when no actor is ready. Time passes only when the
harness sleeps: the clock goes from one waking to the next, and the scene
settles at each. A command that is the last thing a process has to do is not
given a process of its own.
-/
import PairingHarness.Rehearsal.Shell.Expansion
import PairingHarness.Rehearsal.Shell.Reader
import PairingHarness.Rehearsal.Shell.Utility

namespace PairingHarness.Rehearsal.Shell

open Host

namespace Scene

-- ============================================================== statuses

/-- The status of a line that is no command, and of a use of the shell that
is wrong. -/
def misuseStatus : Nat := 2

/-- The status that an ending leaves. -/
def statusOf : Ending → Nat
  | .exited code => code
  | .signalled signal => 128 + signal

def exit (s : Scene) (a : Actor) (status : Nat) : Scene :=
  s.finish a.pid (.exited (status % 256))

/-- The actor goes on after a command with this status. -/
def goOn (s : Scene) (a : Actor) (status : Nat) : Scene :=
  s.put { a with status := status }

/-- Sends a signal to processes on behalf of an actor, which goes on if it
still runs. -/
def signalAll (s : Scene) (a : Actor) (number : Nat) (pids : List Pid) :
    Scene :=
  let send (state : Bool × Scene) (pid : Pid) : Bool × Scene :=
    let (here, s) := state.2.signal number pid
    (state.1 && here, s)
  let (found, s) := pids.foldl send (true, s)
  match s.actors.find? (·.pid = a.pid) with
  | some b =>
    s.put { a with status := if found then 0 else 1, activity := b.activity }
  | none => s

-- ============================================================= processes

/-- Runs tasks in a child and waits for it. -/
def delegate (s : Scene) (a : Actor) (streams : Streams)
    (tasks : List Task) : Scene :=
  let (child, s) := s.fork a streams tasks
  s.put { a with activity := .awaiting [child] (some child) }

/-- Runs the stages of a pipeline in a child each, and waits for all. -/
def playStages (s : Scene) (a : Actor) (input : Stream) (children : List Pid) :
    List Command → Scene
  | [] => s.put { a with activity := .awaiting children children.getLast? }
  | [c] =>
    let (child, s) := s.fork a (a.streams.set 0 input) [.run c]
    let children := children ++ [child]
    s.put { a with activity := .awaiting children (some child) }
  | c :: rest =>
    let (pipe, s) := s.makePipe
    let streams := (a.streams.set 0 input).set 1 (.pipe pipe)
    let (child, s) := s.fork a streams [.run c]
    s.playStages a (.pipe pipe) (children ++ [child]) rest

def children (s : Scene) (a : Actor) : List Pid :=
  (s.table.entries.filter fun e => e.parent == a.pid).map Entry.pid

-- ============================================================== builtins

/-- The utilities that the shell plays itself. -/
def ownUtilities : List String := ["true", "false", "echo", "kill", "test", "["]

/-- What the shell does that is no utility. -/
def builtins : List String :=
  [":", "exit", "exec", "cd", "umask", "set", "export", "unset", "trap",
    "wait", "eval"]

/-- Hands variables on, the assigned ones with their new values. -/
def exportAll (a : Actor) (args : List String) : Actor :=
  let names := args.map fun w => String.ofList (w.toList.takeWhile (· ≠ '='))
  let a := a.assign (args.filterMap Conduct.splitSetting?)
  { a with exported := a.exported ++ names }

def unsetAll (a : Actor) (args : List String) : Actor :=
  { a with
    bindings := Dictionary.ofPairs
      (a.bindings.entries.filter fun e => !args.contains e.1) }

/-- Ignores signals, where the action of a trap is empty. -/
def trap (a : Actor) : List String → Actor
  | "" :: names =>
    { a with ignored := a.ignored ++ names.filterMap Conduct.signalOf? }
  | _ => a

def playBuiltin (s : Scene) (a : Actor) (streams : Streams) (name : String)
    (args : List String) :
    Scene :=
  match name, args with
  | "exit", [] => s.exit a a.status
  | "exit", code :: _ => s.exit a ((number? code).getD misuseStatus)
  | "exec", [] => s.goOn { a with streams := streams } 0
  | "exec", words =>
    s.put { a with streams := streams, tasks := [.become words] }
  | "export", args => s.goOn (exportAll a args) 0
  | "unset", args => s.goOn (unsetAll a args) 0
  | "trap", args => s.goOn (trap a args) 0
  | "wait", [] => s.put { a with activity := .awaiting (s.children a) none }
  | "wait", pids =>
    let pids := pids.filterMap number?
    s.put { a with activity := .awaiting pids pids.getLast? }
  | "eval", words =>
    match read? (" ".intercalate words) with
    | some c => s.put { a with tasks := .run c :: a.tasks }
    | none => s.exit a misuseStatus
  | _, _ => s.goOn a 0

/-- Plays a utility within the shell. -/
def playOwn (s : Scene) (a : Actor) (streams : Streams)
    (words : List String) : Scene :=
  match Conduct.ofWords s.files a.environment words with
  | .ends status output => (s.write streams.output output).goOn a status
  | .signals number pids => s.signalAll a number pids
  | _ => s.goOn a misuseStatus

-- ============================================================== commands

def playSimple (s : Scene) (a : Actor)
    (assignments : List (String × Word)) (words : List Word)
    (redirections : List Redirection) : Scene :=
  let pairs := assignments.map fun p => (p.1, a.field p.2)
  match s.redirect a a.streams redirections with
  | none =>
    match words.flatMap a.fields with
    | "exec" :: _ => s.exit a misuseStatus
    | _ => s.goOn a misuseStatus
  | some (streams, s) =>
    match words.flatMap a.fields with
    | [] => s.goOn (a.assign pairs) 0
    | name :: args =>
      if builtins.contains name then
        s.playBuiltin (a.assign pairs) streams name args
      else if ownUtilities.contains name then s.playOwn a streams (name :: args)
      else
        let b := exportAll (a.assign pairs) (pairs.map Prod.fst)
        if a.tasks.isEmpty then
          s.put { b with streams := streams, tasks := [.become (name :: args)] }
        else
          let (child, s) := s.fork b streams [.become (name :: args)]
          s.put { a with activity := .awaiting [child] (some child) }

/-- Plays a command in the actor's own process, its streams redirected while
it runs. -/
def playRedirected (s : Scene) (a : Actor) (body : Command)
    (redirections : List Redirection) :
    Scene :=
  if redirections.isEmpty then s.put { a with tasks := .run body :: a.tasks }
  else match s.redirect a a.streams redirections with
    | none => s.goOn a misuseStatus
    | some (streams, s) =>
      s.put { a with
        streams := streams
        tasks := .run body :: .restore a.streams :: a.tasks }

def playCommand (s : Scene) (a : Actor) : Command → Scene
  | .nothing => s.goOn a 0
  | .simple assignments words redirections =>
    s.playSimple a assignments words redirections
  | .sequence first next =>
    s.put { a with tasks := .run first :: .run next :: a.tasks }
  | .background body =>
    let (child, s) := s.fork a (a.streams.set 0 .nowhere) [.run body]
    s.goOn { a with beside := some child } 0
  | .both first next =>
    s.put { a with tasks := .run first :: .onStatus true next :: a.tasks }
  | .either first next =>
    s.put { a with tasks := .run first :: .onStatus false next :: a.tasks }
  | .negated body => s.put { a with tasks := .run body :: .negate :: a.tasks }
  | .piped first next =>
    s.playStages a a.streams.input [] (Command.piped first next).stages
  | .subshell body redirections =>
    if a.tasks.isEmpty then s.playRedirected a body redirections
    else s.delegate a a.streams [.run (.group body redirections)]
  | .group body redirections => s.playRedirected a body redirections
  | .branch condition yes no =>
    s.put { a with tasks := .run condition :: .choose yes no :: a.tasks }
  | .loop isUntil condition body =>
    s.put { a with
      tasks := .run condition :: .iterate isUntil condition body :: a.tasks }

-- ============================================================= utilities

/-- The actor becomes a utility. -/
def become (s : Scene) (a : Actor) (words : List String) : Scene :=
  let s := s.change (.become a.pid (Conduct.processName (words.headD "")))
  match Conduct.ofWords s.files a.environment (s.followLink words) with
  | .ends status output => (s.write a.streams.output output).exit a status
  | .filters work =>
    match a.streams.input with
    | .pipe number =>
      if s.isHeld (.pipe number) then
        s.put { a with tasks := [.become words], activity := .starved number }
      else
        let (status, output) := work (s.read (.pipe number))
        (s.write a.streams.output output).exit a status
    | input =>
      let (status, output) := work (s.read input)
      (s.write a.streams.output output).exit a status
  | .sleeps ms =>
    s.put { a with
      tasks := [], status := 0, activity := .sleeping (s.clock + ms) }
  | .rests => s.put { a with tasks := [], activity := .resting }
  | .signals number pids => s.signalAll { a with tasks := [] } number pids
  | .links target path replaces =>
    let (isMade, s) := s.link target path replaces
    s.exit a (if isMade then 0 else 1)
  | .becomes words settings ignored =>
    let a := exportAll (a.assign settings) (settings.map Prod.fst)
    s.put { a with tasks := [.become words], ignored := a.ignored ++ ignored }
  | .interprets line =>
    let a := { a with
      shellPid := a.pid, beside := none, status := 0,
      bindings := Dictionary.ofPairs a.environment }
    match read? line with
    | some c => s.put { a with tasks := [.run c] }
    | none => s.exit a misuseStatus

-- ================================================================= steps

/-- Does the first of an actor's tasks. -/
def step (s : Scene) (a : Actor) : Scene :=
  match a.tasks with
  | [] => s.exit a a.status
  | task :: rest =>
    let a := { a with tasks := rest }
    match task with
    | .run c => s.playCommand a c
    | .become words => s.become a words
    | .onStatus success c =>
      if (a.status == 0) == success then
        s.put { a with tasks := .run c :: rest }
      else s.put a
    | .negate => s.goOn a (if a.status = 0 then 1 else 0)
    | .choose yes no =>
      s.put { a with tasks := .run (if a.status = 0 then yes else no) :: rest }
    | .iterate isUntil condition body =>
      if (a.status == 0) == isUntil then s.goOn a 0
      else s.put { a with
        tasks := .run body :: .run (.loop isUntil condition body) :: rest }
    | .restore streams => s.put { a with streams := streams }

def isReady (s : Scene) (a : Actor) : Bool :=
  match a.activity with
  | .ready => true
  | .sleeping till => till ≤ s.clock
  | .awaiting children _ => children.all fun pid => !s.table.isRunning pid
  | .starved pipe => !s.isHeld (.pipe pipe)
  | .resting => false

/-- Lets an actor go on: it takes note of the endings that it waited for. -/
def wake (s : Scene) (a : Actor) : Scene × Actor :=
  let awake := { a with activity := .ready }
  match a.activity with
  | .awaiting children last =>
    let status := match last with
      | none => 0
      | some pid =>
        (((s.table.find? pid).bind Entry.ending).map statusOf).getD 127
    let s := children.foldl (fun s pid => s.change (.wait a.pid pid)) s
    (s, { awake with status := status })
  | _ => (s, awake)

/-- How many steps are played at one time of the clock at most. -/
def stepsAtOnce : Nat := 2000

/-- Plays until no actor is ready. -/
def settle : (steps : Nat) → Scene → Scene
  | 0, s => s
  | steps + 1, s =>
    match s.actors.find? s.isReady with
    | none => s
    | some a =>
      let (s, a) := s.wake a
      settle steps ((s.put a).step a)

-- ================================================================== time

/-- When the next actor wakes. -/
def nextWake? (s : Scene) : Option Nat :=
  (s.actors.filterMap fun a => match a.activity with
    | .sleeping till => some till
    | _ => none).min?

/-- Lets the clock go to a time, from one waking to the next. -/
def advance (till : Nat) : (wakings : Nat) → Scene → Scene
  | 0, s => { s with clock := till }
  | wakings + 1, s =>
    let s := s.settle stepsAtOnce
    match s.nextWake? with
    | some t =>
      if t ≤ till then advance till wakings { s with clock := max t s.clock }
      else { s with clock := till }
    | none => { s with clock := till }

end Scene

end PairingHarness.Rehearsal.Shell
