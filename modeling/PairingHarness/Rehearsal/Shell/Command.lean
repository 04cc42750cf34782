/-
Commands of the shell.

A command is words with redirections, or is put together from other
commands. A word is made of pieces: text as it stands, and parameters that
are looked up when the command runs. What stood in quotes is marked, since
it is never split into several words.
-/

namespace PairingHarness.Rehearsal.Shell

-- ================================================================= words

/-- What stands for a parameter in some cases. -/
structure Alternative where
  /-- Whether it stands for a parameter that is set, and not for one that is
  not. -/
  ifSet : Bool
  /-- Whether a parameter that is set but empty counts as not set. -/
  emptyIsUnset : Bool
  text : String
  deriving DecidableEq, Repr

/-- A piece of a word. -/
inductive Piece where
  | text (isQuoted : Bool) (text : String)
  | parameter (isQuoted : Bool) (name : String)
      (alternative : Option Alternative)
  deriving DecidableEq, Repr

abbrev Word := List Piece

/-- The text of a word that is one piece outside quotes: a keyword looks
like this. -/
def Word.bare? : Word → Option String
  | [.text false s] => some s
  | _ => none

def number? (s : String) : Option Nat :=
  if s.toList.all Char.isDigit then s.toNat? else none

/-- What a redirection does with its target. -/
inductive Direction where
  | readFrom
  | writeTo
  | appendTo
  /-- The target is the number of another stream. -/
  | sameAs
  deriving DecidableEq, Repr

/-- Where a stream of a command goes to or comes from. -/
structure Redirection where
  stream : Nat
  direction : Direction
  target : Word
  deriving DecidableEq, Repr

-- ============================================================== commands

inductive Command where
  | nothing
  | simple (assignments : List (String × Word)) (words : List Word)
      (redirections : List Redirection)
  | sequence (first next : Command)
  | background (body : Command)
  /-- The second only where the first succeeds. -/
  | both (first next : Command)
  /-- The second only where the first does not succeed. -/
  | either (first next : Command)
  | negated (body : Command)
  | piped (first next : Command)
  | subshell (body : Command) (redirections : List Redirection)
  | group (body : Command) (redirections : List Redirection)
  | branch (condition yes no : Command)
  /-- Again and again while the condition succeeds, or until it does. -/
  | loop (isUntil : Bool) (condition body : Command)

/-- The commands of a pipeline. -/
def Command.stages : Command → List Command
  | .piped first next => first.stages ++ next.stages
  | c => [c]

end PairingHarness.Rehearsal.Shell
