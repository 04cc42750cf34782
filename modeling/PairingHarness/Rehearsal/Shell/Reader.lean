/-
Reading command lines.

The tokens of a line are put together from the inside out: commands into
pipelines, these into lists joined by success and failure, and these into
sequences, some of which stand between keywords or parentheses. A line that
is no command reads as nothing at all.
-/
import PairingHarness.Rehearsal.Shell.Token

namespace PairingHarness.Rehearsal.Shell

-- ============================================================== keywords

/-- The words that end a sequence of commands. -/
def closingWords : List String :=
  ["then", "else", "elif", "fi", "do", "done", "\x7d"]

def startsCommand : List Token → Bool
  | .word w :: _ =>
    match w.bare? with
    | some s => !closingWords.contains s
    | none => true
  | .redirection .. :: _ => true
  | .operator .opening :: _ => true
  | _ => false

/-- What follows the line breaks at the start. -/
def skipNewlines : List Token → List Token
  | .operator .newline :: rest => skipNewlines rest
  | ts => ts

/-- What follows a keyword that must stand here. -/
def expectWord (keyword : String) : List Token → Option (List Token)
  | .word w :: rest => if w.bare? = some keyword then some rest else none
  | _ => none

/-- One command after another; no command adds nothing. -/
def Command.andThen (first : Command) : Command → Command
  | .nothing => first
  | next => .sequence first next

-- ======================================================= simple commands

/-- Reads redirections for as long as there are any. -/
def readRedirections : List Token → Option (List Redirection × List Token)
  | .redirection stream direction :: .word target :: rest => do
    let (more, rest) ← readRedirections rest
    return (⟨stream, direction, target⟩ :: more, rest)
  | .redirection .. :: _ => none
  | ts => some ([], ts)

def isName (cs : List Char) : Bool :=
  cs.all Lexer.isNameChar && cs.head?.any (!·.isDigit)

/-- The assignment that a word is, if it is one: a name and an equals sign
outside quotes. -/
def assignment? : Word → Option (String × Word)
  | .text false s :: more =>
    let name := s.toList.takeWhile (· ≠ '=')
    match s.toList.dropWhile (· ≠ '=') with
    | _ :: value =>
      if isName name then
        some (String.ofList name,
          if value.isEmpty then more
          else .text false (String.ofList value) :: more)
      else none
    | [] => none
  | _ => none

/-- Reads words and redirections to the end of a simple command. -/
def readParts : List Token → Option (List Word × List Redirection × List Token)
  | .redirection stream direction :: .word target :: rest => do
    let (words, redirections, rest) ← readParts rest
    return (words, ⟨stream, direction, target⟩ :: redirections, rest)
  | .redirection .. :: _ => none
  | .word w :: rest => do
    let (words, redirections, rest) ← readParts rest
    return (w :: words, redirections, rest)
  | ts => some ([], [], ts)

/-- The assignments at the start of a simple command, and its other words. -/
def splitAssignments : List Word → List (String × Word) × List Word
  | [] => ([], [])
  | w :: rest =>
    match assignment? w with
    | some a => (a :: (splitAssignments rest).1, (splitAssignments rest).2)
    | none => ([], w :: rest)

def readSimple (ts : List Token) : Option (Command × List Token) := do
  let (words, redirections, rest) ← readParts ts
  let (assignments, words) := splitAssignments words
  return (.simple assignments words redirections, rest)

-- ===================================================== compound commands

mutual

/-- Reads a sequence of commands, to the first token that starts none. -/
def readSequence : (fuel : Nat) → List Token → Option (Command × List Token)
  | 0, _ => none
  | fuel + 1, ts =>
    let ts := skipNewlines ts
    if startsCommand ts then do
      let (first, ts) ← readPipeline fuel ts
      let (first, ts) ← readJoined fuel first ts
      match ts with
      | .operator .ampersand :: ts =>
        let (next, ts) ← readSequence fuel ts
        return ((Command.background first).andThen next, ts)
      | .operator .semicolon :: ts | .operator .newline :: ts =>
        let (next, ts) ← readSequence fuel ts
        return (first.andThen next, ts)
      | _ => return (first, ts)
    else some (.nothing, ts)

/-- Reads on after a pipeline, for as long as success or failure joins
another to it. -/
def readJoined :
    (fuel : Nat) → Command → List Token → Option (Command × List Token)
  | 0, _, _ => none
  | fuel + 1, first, .operator .andIf :: ts => do
    let (next, ts) ← readPipeline fuel (skipNewlines ts)
    readJoined fuel (.both first next) ts
  | fuel + 1, first, .operator .orIf :: ts => do
    let (next, ts) ← readPipeline fuel (skipNewlines ts)
    readJoined fuel (.either first next) ts
  | _ + 1, first, ts => some (first, ts)

def readPipeline : (fuel : Nat) → List Token → Option (Command × List Token)
  | 0, _ => none
  | fuel + 1, ts =>
    match expectWord "!" ts with
    | some ts => do
      let (body, ts) ← readPipeline fuel ts
      return (.negated body, ts)
    | none => do
      let (first, ts) ← readCommand fuel ts
      match ts with
      | .operator .bar :: ts =>
        let (next, ts) ← readPipeline fuel (skipNewlines ts)
        return (.piped first next, ts)
      | _ => return (first, ts)

def readCommand : (fuel : Nat) → List Token → Option (Command × List Token)
  | 0, _ => none
  | fuel + 1, .operator .opening :: ts => do
    match ← readSequence fuel ts with
    | (body, .operator .closing :: ts) =>
      let (redirections, ts) ← readRedirections ts
      return (.subshell body redirections, ts)
    | _ => none
  | fuel + 1, .word w :: ts => do
    if w.bare? = some "\x7b" then
      let (body, ts) ← readSequence fuel ts
      let (redirections, ts) ← readRedirections (← expectWord "\x7d" ts)
      return (.group body redirections, ts)
    else if w.bare? = some "if" then
      readBranch fuel ts
    else if w.bare? = some "while" || w.bare? = some "until" then
      let (condition, ts) ← readSequence fuel ts
      let (body, ts) ← readSequence fuel (← expectWord "do" ts)
      let isUntil : Bool := w.bare? = some "until"
      return (.loop isUntil condition body, ← expectWord "done" ts)
    else if startsCommand (.word w :: ts) then readSimple (.word w :: ts)
    else none
  | _ + 1, ts => if startsCommand ts then readSimple ts else none

/-- Reads a branch on from its condition. -/
def readBranch : (fuel : Nat) → List Token → Option (Command × List Token)
  | 0, _ => none
  | fuel + 1, ts => do
    let (condition, ts) ← readSequence fuel ts
    let (yes, ts) ← readSequence fuel (← expectWord "then" ts)
    match expectWord "elif" ts with
    | some ts =>
      let (no, ts) ← readBranch fuel ts
      return (.branch condition yes no, ts)
    | none =>
      match expectWord "else" ts with
      | some ts =>
        let (no, ts) ← readSequence fuel ts
        return (.branch condition yes no, ← expectWord "fi" ts)
      | none => return (.branch condition yes .nothing, ← expectWord "fi" ts)

end

/-- The command that a line is, if it is one. -/
def read? (line : String) : Option Command := do
  let ts ← tokens? line
  -- no token takes more than eight nested calls
  match ← readSequence (8 * ts.length + 8) ts with
  | (c, []) => return c
  | _ => none

end PairingHarness.Rehearsal.Shell
