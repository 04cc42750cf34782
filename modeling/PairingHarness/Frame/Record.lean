/-
Records of known fields read from JSON.

A record is written as an object, its fields in any order and members of
other names passed over, or as an array of its fields in order. A field that
comes twice is a fault at the second name, found before its value is read. A
value of the wrong kind is a fault at once; a scalar is read to its end
first, an array or object is not entered.
-/
import PairingHarness.Json.Skip

namespace PairingHarness.Json

-- ========================================================== wrong values

/-- The fault of a value that is not what was wanted. -/
def mismatch (wanted : String) (s : List Char) : Fault :=
  let found (x : Found) (rest : List Char) : Fault :=
    .before (.wrongType x wanted) rest
  let word (letters : List Char) (rest : List Char) (x : Found) : Fault :=
    match readWord letters rest with
    | .ok r => found x r
    | .error f => f
  let number (negative : Bool) (s : List Char) : Fault :=
    match readNumber negative s with
    | .ok (.integer i, r) => found (.integer i) r
    | .ok (.double d, r) => found (.double d) r
    | .error f => f
  match s with
  | [] => .before .expectedValue []
  | c :: rest =>
    if c = 'n' then word ['u', 'l', 'l'] rest .null
    else if c = 't' then word ['r', 'u', 'e'] rest (.boolean true)
    else if c = 'f' then word ['a', 'l', 's', 'e'] rest (.boolean false)
    else if c = '-' then number true rest
    else if isDigit c then number false s
    else if c = '"' then
      match readText .plain rest with
      | .ok (cs, r) => found (.text (String.ofList cs)) r
      | .error f => f
    else if c = '[' then found .sequence s
    else if c = '\x7b' then found .map s
    else .within .expectedValue s

-- ================================================================ fields

def readTextField (s : List Char) : Except Fault (String × List Char) :=
  match skipSpace s with
  | [] => .error (.before .endInValue [])
  | c :: rest =>
    if c = '"' then
      (readText .plain rest).map fun (cs, r) => (String.ofList cs, r)
    else .error (mismatch "a string" (c :: rest))

def readOptionalTextField (s : List Char) :
    Except Fault (Option String × List Char) :=
  match skipSpace s with
  | 'n' :: rest => (readWord ['u', 'l', 'l'] rest).map fun r => (none, r)
  | _ => (readTextField s).map fun (t, r) => (some t, r)

/-- Reads an object that has at most `depth` arrays and objects inside each
other, itself counted. -/
def readObjectField (depth : Nat) (s : List Char) :
    Except Fault (List (String × Value) × List Char) :=
  match skipSpace s with
  | [] => .error (.before .endInValue [])
  | c :: rest =>
    if c = '\x7b' then
      match depth with
      | 0 => .error (.within .tooDeep (c :: rest))
      | depth + 1 => readMembers (readValue depth) (rest.length + 1) true rest
    else .error (mismatch "a map" (c :: rest))

-- =============================================================== objects

/-- What a record does with a member. -/
inductive Slot (σ : Type) where
  /-- The name is none of its fields. -/
  | unknown
  | taken (field : String)
  | reads (read : List Char → Except Fault (σ × List Char))

/-- The fault of a field that comes again, `s` being the text after its
name. A brace that closes the object there is still read. -/
def repeated (field : String) (s : List Char) : Fault :=
  match skipSpace s with
  | '\x7d' :: rest => .before (.duplicateField field) rest
  | rest => .before (.duplicateField field) rest

/-- Reads the members of a record up to the closing brace, from what was
read of it so far. -/
def readFields {σ : Type} (slot : σ → String → Slot σ) :
    (fuel : Nat) → (first : Bool) → σ → List Char → Except Fault (σ × List Char)
  | 0, _, _, s => .error (.before .endInObject s)
  | fuel + 1, first, acc, s => do
    match ← nextName first s with
    | (none, s) => return (acc, s)
    | (some name, s) =>
      match slot acc name with
      | .unknown => do
        let s ← skipValue (← readColon s)
        readFields slot fuel false acc s
      | .taken field => .error (repeated field s)
      | .reads read => do
        let (acc, s) ← read (← readColon s)
        readFields slot fuel false acc s

-- ================================================================ arrays

/-- Reads the closing bracket of a record written as an array. -/
def readListEnd (s : List Char) : Except Fault (List Char) :=
  match skipSpace s with
  | [] => .error (.before .endInList [])
  | c :: rest =>
    if c = ']' then .ok rest
    else if c = ',' then
      match skipSpace rest with
      | ']' :: rest' => .error (.within .trailingComma (']' :: rest'))
      | rest' => .error (.within .trailingCharacters rest')
    else .error (.within .trailingCharacters (c :: rest))

-- =========================================================== whole texts

/-- Reads a record that is all of a text. -/
def readRecord {α : Type} (wanted : String)
    (ofObject ofArray : List Char → Except Fault (α × List Char))
    (s : List Char) :
    Except Fault α := do
  let (a, rest) ←
    match skipSpace s with
    | [] => .error (.before .endInValue [])
    | c :: rest =>
      if c = '[' then ofArray rest
      else if c = '\x7b' then ofObject rest
      else .error (mismatch wanted (c :: rest))
  match skipSpace rest with
  | [] => return a
  | r => .error (.within .trailingCharacters r)

end PairingHarness.Json
