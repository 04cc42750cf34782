/-
The tokens of JSON: blanks, words, strings and numbers.

Each reader takes the text from its token on and gives the value with the
text after it, or the first fault. A string is read character by character;
what is open inside an escape is the mode. A number keeps as many digits of
its significand as sixty-four bits hold; digits of the whole part beyond
them count as tens, digits of the fraction beyond them do not count.
-/
import PairingHarness.Decimal
import PairingHarness.Json.Fault
import PairingHarness.Json.Value

namespace PairingHarness.Json

open Text.Utf8 (size)

-- ====================================================== blanks and words

/-- The four blanks of JSON. -/
def isSpace (c : Char) : Bool :=
  c = ' ' || c = '\n' || c = '\t' || c = '\x0d'

/-- The text from its first character that is not blank. -/
def skipSpace (s : List Char) : List Char :=
  s.dropWhile isSpace

/-- Reads what a word has after its first letter. -/
def readWord : (letters : List Char) → List Char → Except Fault (List Char)
  | [], rest => .ok rest
  | _ :: _, [] => .error (.before .endInValue [])
  | l :: letters, c :: rest =>
    if c = l then readWord letters rest
    else .error (.within .expectedWord (c :: rest))

-- =============================================================== strings

/-- What is open in a string. -/
inductive Mode where
  | plain
  | escape
  /-- A numeric escape with digits missing and the value of those read,
  after the escape of a leading surrogate or not. -/
  | hex (lead : Option Nat) (missing : Nat) (value : Nat)
  /-- The escape of a leading surrogate, its partner not begun. -/
  | paired (lead : Nat)
  /-- The escape of a leading surrogate and a backslash. -/
  | pairedEscape (lead : Nat)
  deriving DecidableEq, Repr

def hexDigit? (c : Char) : Option Nat :=
  let n := c.toNat
  if 0x30 ≤ n ∧ n ≤ 0x39 then some (n - 0x30)
  else if 0x41 ≤ n ∧ n ≤ 0x46 then some (n - 0x37)
  else if 0x61 ≤ n ∧ n ≤ 0x66 then some (n - 0x57)
  else none

/-- What the letter after a backslash stands for, other than the numeric
escape. -/
def escaped? (c : Char) : Option Char :=
  if c = '"' then some '"'
  else if c = '\\' then some '\\'
  else if c = '/' then some '/'
  else if c = 'b' then some '\x08'
  else if c = 'f' then some '\x0c'
  else if c = 'n' then some '\n'
  else if c = 'r' then some '\x0d'
  else if c = 't' then some '\t'
  else none

def isLead (n : Nat) : Bool := 0xd800 ≤ n && n ≤ 0xdbff

def isTrail (n : Nat) : Bool := 0xdc00 ≤ n && n ≤ 0xdfff

/-- The character of a pair of surrogates. -/
def pairChar (lead trail : Nat) : Char :=
  Char.ofNat (0x10000 + (lead - 0xd800) * 0x400 + (trail - 0xdc00))

/-- Puts a character in front of those read after it. -/
def push (c : Char) (r : Except Fault (List Char × List Char)) :
    Except Fault (List Char × List Char) :=
  r.map fun (cs, rest) => (c :: cs, rest)

/-- Reads a string from after its opening quote to after its closing one. -/
def readText : Mode → List Char → Except Fault (List Char × List Char)
  | _, [] => .error (.before .endInText [])
  | .plain, c :: rest =>
    if c = '"' then .ok ([], rest)
    else if c = '\\' then readText .escape rest
    else if c.toNat < 0x20 then .error (.before .controlCharacter rest)
    else push c (readText .plain rest)
  | .escape, c :: rest =>
    if c = 'u' then readText (.hex none 4 0) rest
    else match escaped? c with
      | some e => push e (readText .plain rest)
      | none => .error (.within .invalidEscape (c :: rest))
  | .hex lead missing value, c :: rest =>
    match hexDigit? c with
    | none =>
      -- the four places of the escape are read as one
      if size (c :: rest) < missing then .error (.before .endInText [])
      else .error ⟨.invalidEscape, size (c :: rest) - missing⟩
    | some d =>
      let v := value * 16 + d
      if 1 < missing then readText (.hex lead (missing - 1) v) rest
      else match lead with
        | none =>
          if isTrail v then .error (.before .loneSurrogate rest)
          else if isLead v then readText (.paired v) rest
          else push (Char.ofNat v) (readText .plain rest)
        | some l =>
          if isTrail v then push (pairChar l v) (readText .plain rest)
          else .error (.before .loneSurrogate rest)
  | .paired lead, c :: rest =>
    if c = '\\' then readText (.pairedEscape lead) rest
    else .error (.within .unfinishedSurrogate (c :: rest))
  | .pairedEscape lead, c :: rest =>
    if c = 'u' then readText (.hex (some lead) 4 0) rest
    else .error (.within .unfinishedSurrogate (c :: rest))

-- =============================================================== numbers

def isDigit (c : Char) : Bool :=
  (Decimal.digit? c).isSome

/-- The value of a digit, zero for any other character. -/
def digitValue (c : Char) : Nat :=
  (Decimal.digit? c).getD 0

/-- Appends digits to a significand as long as sixty-four bits hold it; also
how many digits were not taken. -/
def extend (significand : Nat) : List Char → Nat × Nat
  | [] => (significand, 0)
  | c :: rest =>
    let v := significand * 10 + digitValue c
    if v ≤ Decimal.maxWord64 then extend v rest
    else (significand, rest.length + 1)

def maxExponent : Nat := Nat.pow 2 31 - 1

/-- Reads the digits of an exponent; where they pass what is counted,
nothing and the text after the digit that did. -/
def readExponent (value : Nat) : List Char → Option Nat × List Char
  | [] => (some value, [])
  | c :: rest =>
    if isDigit c then
      let v := value * 10 + digitValue c
      if v ≤ maxExponent then readExponent v rest else (none, rest)
    else (some value, c :: rest)

/-- A number of the significand times ten to the exponent, the text behind
it being `rest`. -/
def finishDouble (negative : Bool) (significand : Nat) (exponent : Int)
    (rest : List Char) :
    Except Fault (Number × List Char) :=
  match Double.ofParts significand exponent with
  | some p => .ok (.double ⟨negative, p⟩, rest)
  | none => .error (.before .outOfRange rest)

/-- Reads on after the letter of an exponent. -/
def readScaled (negative : Bool) (significand : Nat) (exponent : Int)
    (s : List Char) :
    Except Fault (Number × List Char) :=
  let down := s.head? = some '-'
  let digits := if down ∨ s.head? = some '+' then s.tail else s
  match digits with
  | [] => .error (.before .endInValue [])
  | c :: _ =>
    if !isDigit c then .error (.within .invalidNumber digits)
    else match readExponent 0 digits with
      | (some e, rest) =>
        finishDouble negative significand
          (if down then exponent - e else exponent + e) rest
      | (none, rest) =>
        if significand ≠ 0 ∧ !down then .error (.before .outOfRange rest)
        else .ok (.double ⟨negative, 0⟩, rest.dropWhile isDigit)

def startsExponent (s : List Char) : Bool :=
  s.head? = some 'e' || s.head? = some 'E'

/-- The number of a significand without point and exponent. -/
def wholeNumber (negative : Bool) (significand : Nat) : Number :=
  if !negative then .integer significand
  else if significand = 0 then .double ⟨true, 0⟩
  else if significand ≤ Nat.pow 2 63 then .integer (-significand)
  else .double ⟨true, Double.nearest significand 1⟩

/-- Reads on after the point of a number. -/
def readFraction (negative : Bool) (significand : Nat) (exponent : Int)
    (s : List Char) :
    Except Fault (Number × List Char) :=
  let digits := s.takeWhile isDigit
  let rest := s.dropWhile isDigit
  if digits.isEmpty then
    .error (if s.isEmpty then .before .endInValue []
      else .within .invalidNumber s)
  else
    let (m, untaken) := extend significand digits
    let e := exponent - (digits.length - untaken : Nat)
    if startsExponent rest then readScaled negative m e rest.tail
    else finishDouble negative m e rest

/-- Reads a number from after its sign. -/
def readNumber (negative : Bool) (s : List Char) :
    Except Fault (Number × List Char) :=
  match s with
  | [] => .error (.before .endInValue [])
  | c :: after =>
    if !isDigit c then .error (.within .invalidNumber s)
    else if c = '0' ∧ (after.head?.any isDigit) then
      .error (.within .invalidNumber after)
    else
      let (m, untaken) := extend 0 (s.takeWhile isDigit)
      let rest := s.dropWhile isDigit
      if rest.head? = some '.' then readFraction negative m untaken rest.tail
      else if startsExponent rest then readScaled negative m untaken rest.tail
      else if untaken = 0 then .ok (wholeNumber negative m, rest)
      else finishDouble negative m untaken rest

end PairingHarness.Json
