/-
The scene on which commands are played.

Every process that runs has an actor: a shell with the tasks still before
it, or a utility that sleeps or waits. The scene holds the actors, the table
of processes, files and pipes and a clock; what happens to the table is
noted change by change. Files exist only where something was written, and a
path may be a link to another.
-/
import PairingHarness.Host.Machine
import PairingHarness.Rehearsal.Shell.Command

namespace PairingHarness.Rehearsal.Shell

open Host

-- ================================================================ actors

/-- Where a stream goes to or comes from. -/
inductive Stream where
  | nowhere
  | file (path : String)
  | pipe (number : Nat)
  deriving DecidableEq, Repr

structure Streams where
  input : Stream
  output : Stream
  error : Stream
  deriving DecidableEq, Repr

def Streams.get (s : Streams) : Nat → Stream
  | 0 => s.input
  | 1 => s.output
  | 2 => s.error
  | _ => .nowhere

def Streams.set (s : Streams) (number : Nat) (stream : Stream) : Streams :=
  match number with
  | 0 => { s with input := stream }
  | 1 => { s with output := stream }
  | 2 => { s with error := stream }
  | _ => s

/-- Something a process has still to do. -/
inductive Task where
  | run (c : Command)
  | become (words : List String)
  /-- Goes on with a command if the one before succeeded, or if it did not. -/
  | onStatus (success : Bool) (c : Command)
  | negate
  | choose (yes no : Command)
  | iterate (isUntil : Bool) (condition body : Command)
  | restore (streams : Streams)

/-- What a process is about. -/
inductive Activity where
  | ready
  | sleeping (till : Nat)
  /-- Until all of these children have ended; the status becomes that of one
  of them. -/
  | awaiting (children : List Pid) (last : Option Pid)
  /-- Until nothing is going to write to a pipe any more. -/
  | starved (pipe : Nat)
  | resting
  deriving DecidableEq, Repr

/-- A process that runs. -/
structure Actor where
  pid : Pid
  shellPid : Pid
  bindings : Dictionary
  exported : List String
  streams : Streams
  ignored : List Nat
  status : Nat
  /-- The last command that was put beside. -/
  beside : Option Pid
  tasks : List Task
  activity : Activity

/-- The variables that are handed on, with their values. -/
def Actor.environment (a : Actor) : List (String × String) :=
  a.bindings.entries.filter fun e => a.exported.contains e.1

def Actor.assign (a : Actor) (pairs : List (String × String)) : Actor :=
  { a with bindings := a.bindings.insertAll pairs }

-- ================================================================= scene

/-- Everything that commands see and change. -/
structure Scene where
  table : Table
  actors : List Actor
  files : Dictionary
  /-- The paths that stand for others, with those. -/
  links : Dictionary
  pipes : List String
  /-- In milliseconds. -/
  clock : Nat
  /-- What happened to the table, latest first. -/
  changes : List Table.Change

namespace Scene

/-- Before anything happened. -/
def start : Scene :=
  ⟨.empty, [], .empty, .empty, [], 0, []⟩

/-- Changes the table and takes note of it. -/
def change (s : Scene) (c : Table.Change) : Scene :=
  { s with table := s.table.apply c, changes := c :: s.changes }

/-- Puts a new state in place of an actor's. -/
def put (s : Scene) (a : Actor) : Scene :=
  { s with actors := s.actors.map fun b => if b.pid = a.pid then a else b }

/-- Takes an actor off the scene. -/
def remove (s : Scene) (pid : Pid) : Scene :=
  { s with actors := s.actors.filter fun a => a.pid ≠ pid }

def finish (s : Scene) (pid : Pid) (ending : Ending) : Scene :=
  (s.change (.finish pid ending)).remove pid

/-- Starts a child of an actor that is like it but for its tasks and
streams. -/
def fork (s : Scene) (a : Actor) (streams : Streams) (tasks : List Task) :
    Pid × Scene :=
  let child := s.table.next
  let s := s.change (.fork a.pid Machine.shellName)
  let b := { a with
    pid := child, streams := streams, tasks := tasks, activity := .ready,
    beside := none }
  (child, { s with actors := s.actors ++ [b] })

-- =============================================================== streams

def read (s : Scene) : Stream → String
  | .nowhere => ""
  | .file path => (s.files.get? path).getD ""
  | .pipe number => s.pipes.getD number ""

def write (s : Scene) (stream : Stream) (text : String) : Scene :=
  match stream with
  | .nowhere => s
  | .file path =>
    let content := (s.files.get? path).getD "" ++ text
    { s with files := s.files.insert path content }
  | .pipe number => { s with pipes := s.pipes.modify number (· ++ text) }

/-- Whether something may still write to a stream. -/
def isHeld (s : Scene) (stream : Stream) : Bool :=
  s.actors.any fun a => a.streams.output = stream || a.streams.error = stream

def makePipe (s : Scene) : Nat × Scene :=
  (s.pipes.length, { s with pipes := s.pipes ++ [""] })

/-- The directories in which files can be made. -/
def directories : List String := ["", "/", "/tmp/", "/var/tmp/", "/dev/shm/"]

def directoryOf (path : String) : String :=
  String.ofList (path.toList.reverse.dropWhile (· ≠ '/')).reverse

def canMake (path : String) : Bool :=
  directories.contains (directoryOf path) && path ≠ ""

/-- The file in which everything is lost. -/
def nullPath : String := "/dev/null"

def openFile (s : Scene) (direction : Direction) (path : String) :
    Option (Stream × Scene) :=
  if path = nullPath then some (.nowhere, s)
  else match direction with
    | .readFrom =>
      if (s.files.get? path).isSome then some (.file path, s) else none
    | .writeTo =>
      if canMake path then
        some (.file path, { s with files := s.files.insert path "" })
      else none
    | .appendTo =>
      if canMake path then
        some (.file path, s.write (.file path) "")
      else none
    | .sameAs => none

/-- Makes a path stand for another: whether it now does, and the scene. A
link that is there is left alone unless it is to be replaced. -/
def link (s : Scene) (target path : String) (replaces : Bool) : Bool × Scene :=
  let isFree := (s.files.get? path).isNone
    && (replaces || (s.links.get? path).isNone)
  if canMake path && isFree then
    (true, { s with links := s.links.insert path target })
  else (false, s)

/-- The words of a command, the path that it names followed if that is a
link. -/
def followLink (s : Scene) : List String → List String
  | [] => []
  | name :: args => (s.links.get? name).getD name :: args

-- =============================================================== signals

/-- The signals that do nothing. -/
def harmless : List Nat := [0, 17, 18, 23, 28]

/-- The signals that bring a process to a stand. -/
def stopping : List Nat := [19, 20, 21, 22]

/-- The signals that no process can ignore. -/
def undeniable : List Nat := [killSignal, 19]

/-- Sends a signal: whether there is such a process, and what becomes of it.
-/
def signal (s : Scene) (signal : Nat) (pid : Pid) : Bool × Scene :=
  match s.actors.find? (·.pid = pid) with
  | none => ((s.table.find? pid).isSome, s)
  | some a =>
    let isIgnored := a.ignored.contains signal && !undeniable.contains signal
    (true,
      if isIgnored || harmless.contains signal then s
      else if stopping.contains signal then
        s.put { a with activity := .resting }
      else s.finish pid (.signalled signal))

end Scene

end PairingHarness.Rehearsal.Shell
