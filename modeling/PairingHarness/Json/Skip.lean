/-
Values passed over.

A value nobody asked for is checked for its form and dropped: numbers may be
of any size and escapes may stand for lone surrogates, and there is no bound
on depth, for the brackets that are open are held in a list.
-/
import PairingHarness.Json.Reader

namespace PairingHarness.Json

open Text.Utf8 (size)

-- =============================================================== scalars

/-- Passes over a string from after its opening quote, some hexadecimal
digits of an escape being still to come or a backslash standing before. -/
def skipText :
    (escape : Bool) → (missing : Nat) → List Char → Except Fault (List Char)
  | _, _, [] => .error (.before .endInText [])
  | true, _, c :: rest =>
    if c = 'u' then skipText false 4 rest
    else if (escaped? c).isSome then skipText false 0 rest
    else .error (.within .invalidEscape (c :: rest))
  | false, missing + 1, c :: rest =>
    if (hexDigit? c).isSome then skipText false missing rest
    else if size (c :: rest) < missing + 1 then .error (.before .endInText [])
    else .error ⟨.invalidEscape, size (c :: rest) - (missing + 1)⟩
  | false, 0, c :: rest =>
    if c = '"' then .ok rest
    else if c = '\\' then skipText true 0 rest
    else if c.toNat < 0x20 then .error (.before .controlCharacter (c :: rest))
    else skipText false 0 rest

def skipExponent (s : List Char) : Except Fault (List Char) :=
  let digits := if s.head? = some '-' ∨ s.head? = some '+' then s.tail else s
  if digits.head?.any isDigit then .ok (digits.dropWhile isDigit)
  else .error (.within .invalidNumber digits)

def skipFraction (s : List Char) : Except Fault (List Char) :=
  if s.head?.any isDigit then
    let rest := s.dropWhile isDigit
    if startsExponent rest then skipExponent rest.tail else .ok rest
  else .error (.within .invalidNumber s)

def skipNumber (s : List Char) : Except Fault (List Char) :=
  if !(s.head?.any isDigit) then .error (.within .invalidNumber s)
  else if s.head? = some '0' ∧ s.tail.head?.any isDigit then
    .error (.within .invalidNumber s.tail)
  else
    let rest := s.dropWhile isDigit
    if rest.head? = some '.' then skipFraction rest.tail
    else if startsExponent rest then skipExponent rest.tail
    else .ok rest

-- ============================================================== brackets

/-- What an open bracket opened. -/
inductive Bracket where
  | list
  | object
  deriving DecidableEq, Repr

def Bracket.closer : Bracket → Char
  | list => ']'
  | object => '\x7d'

/-- The fault of a text that ends inside it. -/
def Bracket.atEnd : Bracket → Cause
  | list => .endInList
  | object => .endInObject

/-- The fault of anything but a comma or the closer after a value in it. -/
def Bracket.expected : Bracket → Cause
  | list => .expectedListEnd
  | object => .expectedObjectEnd

/-- Passes over what comes before a value in a bracket: a name and a colon
in an object. -/
def skipName (b : Bracket) (s : List Char) : Except Fault (List Char) :=
  match b with
  | .list => .ok s
  | .object => do
    match skipSpace s with
    | [] => .error (.before .endInObject [])
    | c :: rest =>
      if c = '"' then readColon (← skipText false 0 rest)
      else .error (.within .nameNotText (c :: rest))

/-- Where a scan stands. -/
inductive Place where
  | value
  | done
  deriving DecidableEq, Repr

/-- Goes on after an opening bracket, which may be closed at once. -/
def enter (b : Bracket) (opened : List Bracket) (s : List Char) :
    Except Fault (Place × List Bracket × List Char) :=
  match skipSpace s with
  | [] => .error (.before b.atEnd [])
  | c :: rest =>
    if c = b.closer then .ok (.done, opened, rest)
    else (skipName b (c :: rest)).map fun r => (.value, b :: opened, r)

/-- Goes on after a value inside a bracket: another value follows a comma,
or the bracket closes. -/
def leave (b : Bracket) (opened : List Bracket) (s : List Char) :
    Except Fault (Place × List Bracket × List Char) :=
  match skipSpace s with
  | [] => .error (.before b.atEnd [])
  | c :: rest =>
    if c = ',' then (skipName b rest).map fun r => (.value, b :: opened, r)
    else if c = b.closer then .ok (.done, opened, rest)
    else .error (.within b.expected (c :: rest))

/-- Passes over a scalar, or over an opening bracket and what comes before
its first value. -/
def skipHead (opened : List Bracket) (s : List Char) :
    Except Fault (Place × List Bracket × List Char) :=
  match skipSpace s with
  | [] => .error (.before .endInValue [])
  | c :: rest =>
    if c = '[' then enter .list opened rest
    else if c = '\x7b' then enter .object opened rest
    else
      let scalar : Except Fault (List Char) :=
        if c = 'n' then readWord ['u', 'l', 'l'] rest
        else if c = 't' then readWord ['r', 'u', 'e'] rest
        else if c = 'f' then readWord ['a', 'l', 's', 'e'] rest
        else if c = '-' then skipNumber rest
        else if isDigit c then skipNumber (c :: rest)
        else if c = '"' then skipText false 0 rest
        else .error (.within .expectedValue (c :: rest))
      scalar.map fun r => (.done, opened, r)

/-- Passes over the rest of a value inside the open brackets, to the closer
of the outermost. Every step takes a character, so the fuel of one more than
the length of the text is enough. -/
def skipIn : (fuel : Nat) → Place → (opened : List Bracket) → List Char →
    Except Fault (List Char)
  | _, .done, [], s => .ok s
  | 0, _, _, s => .error (.before .endInValue s)
  | fuel + 1, .done, b :: opened, s =>
    match leave b opened s with
    | .ok (place, opened, s) => skipIn fuel place opened s
    | .error f => .error f
  | fuel + 1, .value, opened, s =>
    match skipHead opened s with
    | .ok (place, opened, s) => skipIn fuel place opened s
    | .error f => .error f

/-- Passes over one value. -/
def skipValue (s : List Char) : Except Fault (List Char) :=
  skipIn (s.length + 1) .value [] s

end PairingHarness.Json
