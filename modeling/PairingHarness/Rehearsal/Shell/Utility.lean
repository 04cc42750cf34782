/-
The utilities that commands may name.

What a utility does follows from its words and its environment alone: it
ends with a status and an output, sleeps, waits for its input, sends
signals, makes a link, or becomes another command. A name that is not known
here is not found.
-/
import PairingHarness.Decimal
import PairingHarness.Rehearsal.Shell.Actor
import PairingHarness.Text.Letter

namespace PairingHarness.Rehearsal.Shell

open Host

-- =============================================================== conduct

/-- What a utility does. -/
inductive Conduct where
  | ends (status : Nat) (output : String)
  /-- Ends once its input has, with a status and an output that follow from
  it. -/
  | filters (work : String → Nat × String)
  | sleeps (ms : Nat)
  | rests
  | signals (signal : Nat) (pids : List Pid)
  | links (target path : String) (replaces : Bool)
  | becomes (words : List String) (settings : List (String × String))
      (ignored : List Nat)
  | interprets (line : String)

namespace Conduct

/-- The status of a command that is not there. -/
def notFound : Conduct := .ends 127 ""

/-- The status of a path that is no command. -/
def notExecutable : Conduct := .ends 126 ""

-- ================================================================= lines

/-- The lines of a text; the last one need not be complete. -/
def linesOf (text : String) : List String :=
  let lines := text.splitOn "\n"
  if lines.getLast? = some "" then lines.dropLast else lines

def unlines (lines : List String) : String :=
  String.join (lines.map (· ++ "\n"))

-- ================================================================== time

/-- The milliseconds that a suffix stands for. -/
def unit? : List Char → Option Nat
  | [] | ['s'] => some 1000
  | ['m'] => some (60 * 1000)
  | ['h'] => some (60 * 60 * 1000)
  | ['d'] => some (24 * 60 * 60 * 1000)
  | _ => none

def digitsValue (cs : List Char) : Nat :=
  cs.foldl (fun n c => 10 * n + (Decimal.digit? c).getD 0) 0

/-- A duration in milliseconds: digits, a fraction, a unit. -/
def duration? (s : String) : Option Nat :=
  let isDigit (c : Char) : Bool := (Decimal.digit? c).isSome
  let whole := s.toList.takeWhile isDigit
  let rest := s.toList.dropWhile isDigit
  let (fraction, rest) := match rest with
    | '.' :: more => (more.takeWhile isDigit, more.dropWhile isDigit)
    | _ => ([], rest)
  if whole.isEmpty && fraction.isEmpty then none
  else (unit? rest).map fun unit =>
    unit * digitsValue (whole ++ fraction) / Nat.pow 10 fraction.length

/-- Sleeps for all durations together. -/
def sleep (args : List String) : Conduct :=
  if args.isEmpty then .ends 1 ""
  else if args = ["infinity"] || args = ["inf"] then .rests
  else match args.mapM duration? with
    | some ms => .sleeps (ms.foldl (· + ·) 0)
    | none => .ends 1 ""

-- =============================================================== signals

/-- The signal of a name or a number. -/
def signalOf? (s : String) : Option Nat :=
  match (Decimal.read 64 s.toList).toOption with
  | some n => some n
  | none =>
    let name := Text.upper s
    if name = "EXIT" then some 0
    else
      (signalNames.findIdx? fun n => n = name || n = "SIG" ++ name).map (· + 1)

def kill : List String → Conduct
  | "-s" :: name :: pids => sendTo (signalOf? name) pids
  | "--" :: pids => sendTo (some 15) pids
  | first :: pids =>
    match first.toList with
    | '-' :: name => sendTo (signalOf? (String.ofList name)) pids
    | _ => sendTo (some 15) (first :: pids)
  | [] => .ends 2 ""
where
  sendTo (signal : Option Nat) (pids : List String) : Conduct :=
    match signal, pids.mapM number? with
    | some n, some (p :: ps) => .signals n (p :: ps)
    | _, _ => .ends 2 ""

-- ================================================================== text

/-- The arguments that are options, and the rest. -/
def splitOptions (args : List String) : List String × List String :=
  let isOption (s : String) : Bool := s.startsWith "-" && s ≠ "-"
  (args.takeWhile isOption, args.dropWhile isOption)

/-- Whether one of the options has a letter. -/
def hasLetter (options : List String) (c : Char) : Bool :=
  options.any fun o => o.toList.contains c

/-- Whether a line matches a pattern: text as it stands, bound to the start
or the end of the line by a mark there. -/
def matchesPattern (pattern line : String) : Bool :=
  let (bound, p) := match pattern.toList with
    | '^' :: p => (true, p)
    | p => (false, p)
  let (boundEnd, p) :=
    if p.getLast? = some '$' then (true, p.dropLast) else (false, p)
  let starts := if bound then [0] else List.range (line.length + 1)
  starts.any fun i =>
    let t := line.toList.drop i
    if boundEnd then t == p else p.isPrefixOf t

/-- Lets the lines through that match, or that do not. -/
def grep (args : List String) : Conduct :=
  let (options, rest) := splitOptions args
  match rest with
  | pattern :: _ => .filters fun input =>
    let isKept (line : String) : Bool :=
      matchesPattern pattern line != hasLetter options 'v'
    let kept := (linesOf input).filter isKept
    (if kept.isEmpty then 1 else 0,
      if hasLetter options 'q' then "" else unlines kept)
  | [] => .ends 2 ""

/-- Puts lines in the order of their characters. -/
def sort (args : List String) : Conduct :=
  let options := (splitOptions args).1
  .filters fun input =>
    let sorted := (linesOf input).mergeSort fun a b => decide (a ≤ b)
    let sorted := if hasLetter options 'u' then sorted.eraseReps else sorted
    (0, unlines (if hasLetter options 'r' then sorted.reverse else sorted))

/-- Writes words. A backslash gives some letters another meaning. -/
def echo : List String → Conduct
  | "-n" :: words => .ends 0 (unescape (" ".intercalate words).toList)
  | words => .ends 0 (unescape (" ".intercalate words).toList ++ "\n")
where
  unescape (cs : List Char) : String :=
    String.ofList (go cs)
  go : List Char → List Char
    | '\\' :: 'n' :: rest => '\n' :: go rest
    | '\\' :: 't' :: rest => '\t' :: go rest
    | '\\' :: '\\' :: rest => '\\' :: go rest
    | c :: rest => c :: go rest
    | [] => []

/-- Whether a test holds; nothing where it is none that is known. -/
def test? (files : Dictionary) : List String → Option Bool
  | [] => some false
  | [s] => some (!s.isEmpty)
  | ["-n", s] => some (!s.isEmpty)
  | ["-z", s] => some s.isEmpty
  | ["-e", p] | ["-f", p] => some (files.get? p).isSome
  | [a, "=", b] => some (a = b)
  | [a, "!=", b] => some (a ≠ b)
  | "!" :: rest => (test? files rest).map (!·)
  | _ => none

def test (files : Dictionary) (args : List String) : Conduct :=
  match test? files args with
  | some true => .ends 0 ""
  | some false => .ends 1 ""
  | none => .ends 2 ""

-- ================================================================= links

def ln (args : List String) : Conduct :=
  let (options, paths) := splitOptions args
  match hasLetter options 's', paths with
  | true, [target, path] => .links target path (hasLetter options 'f')
  | _, _ => .ends 1 ""

-- =========================================================== environment

/-- The name and the value of a word that sets a variable. -/
def splitSetting? (s : String) : Option (String × String) :=
  match s.toList.dropWhile (· ≠ '=') with
  | _ :: value =>
    some (String.ofList (s.toList.takeWhile (· ≠ '=')), String.ofList value)
  | [] => none

/-- Shows the environment, or runs a command with more variables. -/
def env (environment : List (String × String)) (args : List String) : Conduct :=
  let settings := args.takeWhile fun s => (splitSetting? s).isSome
  match args.dropWhile fun s => (splitSetting? s).isSome with
  | [] =>
    let d := (Dictionary.ofPairs environment).insertAll
      (settings.filterMap splitSetting?)
    .ends 0 (unlines (d.entries.map fun e => e.1 ++ "=" ++ e.2))
  | words => .becomes words (settings.filterMap splitSetting?) []

/-- Shows a variable, or all. -/
def printenv (environment : List (String × String)) : List String → Conduct
  | [] => env environment []
  | name :: _ =>
    match environment.lookup name with
    | some v => .ends 0 (v ++ "\n")
    | none => .ends 1 ""

-- ================================================================= names

def utilityDirectories : List String :=
  ["/bin/", "/usr/bin/", "/sbin/", "/usr/sbin/", "/usr/local/bin/"]

def knownDirectories : List String :=
  ["/", ".", "..", "/bin", "/dev", "/etc", "/home", "/proc", "/root",
    "/sbin", "/tmp", "/usr", "/var"]

def lastPart (path : String) : String :=
  String.ofList (path.toList.reverse.takeWhile (· ≠ '/')).reverse

/-- The name of a utility without the directory in which it is found. -/
def baseName (name : String) : String :=
  if utilityDirectories.contains (Scene.directoryOf name) then lastPart name
  else name

/-- How many bytes of its name a process keeps. -/
def nameSize : Nat := 15

/-- The name that a process gets from the path of its command, cut off
wherever its bytes are too many. -/
def processName (path : String) : List UInt8 :=
  ((lastPart path).toUTF8.data.toList).take nameSize

/-- What a command that is no part of the shell does. -/
def ofWords (files : Dictionary) (environment : List (String × String)) :
    List String → Conduct
  | [] => .ends 0 ""
  | name :: args =>
    match baseName name with
    | "true" => .ends 0 ""
    | "false" => .ends 1 ""
    | "echo" => echo args
    | "sleep" => sleep args
    | "kill" => kill args
    | "env" => env environment args
    | "printenv" => printenv environment args
    | "grep" => grep args
    | "sort" => sort args
    | "ln" => ln args
    | "cat" =>
      if args.isEmpty then .filters fun input => (0, input)
      else match args.mapM files.get? with
        | some texts => .ends 0 (String.join texts)
        | none => .ends 1 ""
    | "tail" =>
      if args.contains "-f" then .rests else .filters fun input => (0, input)
    | "test" => test files args
    | "[" =>
      if args.getLast? = some "]" then test files args.dropLast else .ends 2 ""
    | "nohup" => .becomes args [] [1]
    | "setsid" => .becomes args [] []
    | "sh" | "dash" =>
      match args with
      | "-c" :: line :: _ => .interprets line
      | [] => .filters fun _ => (0, "")
      | _ => .ends 2 ""
    | _ => if knownDirectories.contains name then notExecutable else notFound

end Conduct

end PairingHarness.Rehearsal.Shell
