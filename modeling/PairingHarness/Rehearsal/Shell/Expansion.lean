/-
From words to the fields that a command gets.

Parameters are looked up and the quotes are gone. What a parameter outside
quotes holds is split at its blanks, so that one word may become several
fields, or none.
-/
import PairingHarness.Rehearsal.Shell.Actor

namespace PairingHarness.Rehearsal.Shell

-- ============================================================ parameters

def callName : String := "/bin/sh"

/-- What a parameter holds, if it is set. -/
def Actor.parameter? (a : Actor) (name : String) : Option String :=
  if name = "$" then some (toString a.shellPid)
  else if name = "?" then some (toString a.status)
  else if name = "!" then a.beside.map toString
  else if name = "#" then some "0"
  else if name = "0" then some callName
  else a.bindings.get? name

/-- What stands for a parameter. -/
def Actor.lookUp (a : Actor) (name : String)
    (alternative : Option Alternative) : String :=
  match alternative with
  | none => (a.parameter? name).getD ""
  | some alt =>
    let value :=
      (a.parameter? name).filter fun v => !(alt.emptyIsUnset && v.isEmpty)
    match alt.ifSet, value with
    | true, some _ => alt.text
    | true, none => ""
    | false, some v => v
    | false, none => alt.text

-- ================================================================ fields

/-- Fields under way: those that are complete, last first, and the one that
is being put together, if one is. -/
structure Fields where
  complete : List String
  open? : Option String
  deriving DecidableEq, Repr

namespace Fields

/-- Puts a text at the end of the field that is being put together. -/
def push (f : Fields) (s : String) : Fields :=
  { f with open? := some (f.open?.getD "" ++ s) }

def close (f : Fields) : Fields :=
  match f.open? with
  | none => f
  | some s => ⟨s :: f.complete, none⟩

def isSeparator (c : Char) : Bool :=
  c = ' ' || c = '\t' || c = '\n'

/-- Takes a character of a text that is split. -/
def pushSplit (f : Fields) (c : Char) : Fields :=
  if isSeparator c then f.close else f.push (String.singleton c)

/-- Takes a piece of a word. -/
def add (a : Actor) (f : Fields) : Piece → Fields
  | .text _ s => f.push s
  | .parameter true name alternative => f.push (a.lookUp name alternative)
  | .parameter false name alternative =>
    (a.lookUp name alternative).toList.foldl pushSplit f

end Fields

def Actor.fields (a : Actor) (w : Word) : List String :=
  (w.foldl (Fields.add a) ⟨[], none⟩).close.complete.reverse

/-- A word as one field. -/
def Actor.field (a : Actor) (w : Word) : String :=
  String.join (w.map fun
    | .text _ s => s
    | .parameter _ name alternative => a.lookUp name alternative)

-- ========================================================== redirections

/-- Opens what redirections name, one after another, where that can be done.
-/
def Scene.redirect (a : Actor) :
    Scene → Streams → List Redirection → Option (Streams × Scene)
  | s, streams, [] => some (streams, s)
  | s, streams, r :: rest =>
    match r.direction with
    | .sameAs =>
      match number? (a.field r.target) with
      | some n => redirect a s (streams.set r.stream (streams.get n)) rest
      | none =>
        if a.field r.target = "-" then
          redirect a s (streams.set r.stream .nowhere) rest
        else none
    | direction =>
      match s.openFile direction (a.field r.target) with
      | some (stream, s) => redirect a s (streams.set r.stream stream) rest
      | none => none

end PairingHarness.Rehearsal.Shell
