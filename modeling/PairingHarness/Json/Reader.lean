/-
Values of JSON read from text.

The reader follows arrays and objects inside each other down to a depth that
it is given; one more is a fault at its opening bracket. An object keeps, of
members of one name, the last. After the last item a comma is a fault, and
so is an item without a comma before it.
-/
import PairingHarness.Json.Token

namespace PairingHarness.Json

open Text.Utf8 (size)

-- ===================================================== items and members

/-- Moves to the next item of an array: whether there is one, and the text
from it on or after the closing bracket. -/
def nextItem (first : Bool) (s : List Char) : Except Fault (Bool × List Char) :=
  match skipSpace s with
  | [] => .error (.before .endInList [])
  | c :: rest =>
    if c = ']' then .ok (false, rest)
    else if first then .ok (true, c :: rest)
    else if c = ',' then
      match skipSpace rest with
      | [] => .error (.before .endInValue [])
      | d :: rest' =>
        if d = ']' then .error (.within .trailingComma (d :: rest'))
        else .ok (true, d :: rest')
    else .error (.within .expectedListEnd (c :: rest))

/-- Moves to the next member of an object: its name, and the text after the
name or after the closing brace. -/
def nextName (first : Bool) (s : List Char) :
    Except Fault (Option String × List Char) :=
  match skipSpace s with
  | [] => .error (.before .endInObject [])
  | c :: rest =>
    if c = '\x7d' then .ok (none, rest)
    else if first then
      if c = '"' then name rest else .error (.within .nameNotText (c :: rest))
    else if c = ',' then
      match skipSpace rest with
      | [] => .error (.before .endInValue [])
      | d :: rest' =>
        if d = '"' then name rest'
        else if d = '\x7d' then .error (.within .trailingComma (d :: rest'))
        else .error (.within .nameNotText (d :: rest'))
    else .error (.within .expectedObjectEnd (c :: rest))
where
  /-- The name behind an opening quote. -/
  name (s : List Char) : Except Fault (Option String × List Char) :=
    (readText .plain s).map fun (cs, rest) => (some (String.ofList cs), rest)

def readColon (s : List Char) : Except Fault (List Char) :=
  match skipSpace s with
  | [] => .error (.before .endInObject [])
  | c :: rest =>
    if c = ':' then .ok rest else .error (.within .expectedColon (c :: rest))

/-- Reads the items of an array up to its closing bracket. Every item takes
a character, so the fuel of one more than the length of the text is enough.
-/
def readItems {α : Type} (item : List Char → Except Fault (α × List Char)) :
    (fuel : Nat) → (first : Bool) → List Char →
      Except Fault (List α × List Char)
  | 0, _, s => .error (.before .endInList s)
  | fuel + 1, first, s => do
    let (more, s) ← nextItem first s
    if more then
      let (v, s) ← item s
      let (vs, s) ← readItems item fuel false s
      return (v :: vs, s)
    else return ([], s)

def readMembers {α : Type} (value : List Char → Except Fault (α × List Char)) :
    (fuel : Nat) → (first : Bool) → List Char →
      Except Fault (List (String × α) × List Char)
  | 0, _, s => .error (.before .endInObject s)
  | fuel + 1, first, s => do
    match ← nextName first s with
    | (none, s) => return ([], s)
    | (some name, s) =>
      let s ← readColon s
      let (v, s) ← value s
      let (later, s) ← readMembers value fuel false s
      return (addMember name v later, s)

-- ================================================================ values

/-- How many arrays and objects a reader follows inside each other. -/
def maxDepth : Nat := 127

/-- Reads a value that has at most `depth` arrays and objects inside each
other. -/
def readValue (depth : Nat) (s : List Char) :
    Except Fault (Value × List Char) :=
  match skipSpace s with
  | [] => .error (.before .endInValue [])
  | c :: rest =>
    if c = 'n' then (readWord ['u', 'l', 'l'] rest).map fun r => (.null, r)
    else if c = 't' then
      (readWord ['r', 'u', 'e'] rest).map fun r => (.boolean true, r)
    else if c = 'f' then
      (readWord ['a', 'l', 's', 'e'] rest).map fun r => (.boolean false, r)
    else if c = '-' then (readNumber true rest).map fun (n, r) => (.number n, r)
    else if isDigit c then
      (readNumber false (c :: rest)).map fun (n, r) => (.number n, r)
    else if c = '"' then
      (readText .plain rest).map fun (cs, r) => (.text (String.ofList cs), r)
    else if c = '[' then
      match depth with
      | 0 => .error (.within .tooDeep (c :: rest))
      | depth + 1 =>
        (readItems (readValue depth) (rest.length + 1) true rest).map
          fun (vs, r) => (.array vs, r)
    else if c = '\x7b' then
      match depth with
      | 0 => .error (.within .tooDeep (c :: rest))
      | depth + 1 =>
        (readMembers (readValue depth) (rest.length + 1) true rest).map
          fun (ms, r) => (.object ms, r)
    else .error (.within .expectedValue (c :: rest))

end PairingHarness.Json
