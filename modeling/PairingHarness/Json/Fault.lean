/-
Where and why a text is not the JSON that was asked for.

A fault knows its cause and how many bytes of the text were not yet read
when it was found. Its place is told by line and column: the line counts the
newlines before it, the column the bytes since the last of them.
-/
import PairingHarness.Decimal.Shortest
import PairingHarness.Text.Quoted
import PairingHarness.Text.Utf8

namespace PairingHarness.Json

-- ================================================================ causes

/-- What stands where something else was wanted. -/
inductive Found where
  | null
  | boolean (value : Bool)
  | integer (value : Int)
  | double (value : Double)
  | text (value : String)
  | sequence
  | map
  deriving DecidableEq, Repr

def Found.message : Found → String
  | null => "null"
  | boolean true => "boolean `true`"
  | boolean false => "boolean `false`"
  | integer i => "integer `" ++ toString i ++ "`"
  | double d => "floating point `" ++ Decimal.doubleText d ++ "`"
  | text s => "string " ++ Text.quoted s
  | sequence => "sequence"
  | map => "map"

/-- Why a text was refused. -/
inductive Cause where
  | endInValue
  | endInList
  | endInObject
  | endInText
  | expectedColon
  | expectedListEnd
  | expectedObjectEnd
  | expectedWord
  | expectedValue
  | invalidEscape
  | invalidNumber
  | outOfRange
  | controlCharacter
  | nameNotText
  /-- A surrogate escape without its partner. -/
  | loneSurrogate
  /-- Nothing that could be the partner of a surrogate escape. -/
  | unfinishedSurrogate
  | trailingComma
  | trailingCharacters
  | tooDeep
  | wrongType (found : Found) (wanted : String)
  | missingField (name : String)
  | duplicateField (name : String)
  | wrongLength (length : Nat) (wanted : String)
  deriving DecidableEq, Repr

def Cause.message : Cause → String
  | endInValue => "EOF while parsing a value"
  | endInList => "EOF while parsing a list"
  | endInObject => "EOF while parsing an object"
  | endInText => "EOF while parsing a string"
  | expectedColon => "expected `:`"
  | expectedListEnd => "expected `,` or `]`"
  | expectedObjectEnd => "expected `,` or `\x7d`"
  | expectedWord => "expected ident"
  | expectedValue => "expected value"
  | invalidEscape => "invalid escape"
  | invalidNumber => "invalid number"
  | outOfRange => "number out of range"
  | controlCharacter =>
    "control character (\\u0000-\\u001F) found while parsing a string"
  | nameNotText => "key must be a string"
  | loneSurrogate => "lone leading surrogate in hex escape"
  | unfinishedSurrogate => "unexpected end of hex escape"
  | trailingComma => "trailing comma"
  | trailingCharacters => "trailing characters"
  | tooDeep => "recursion limit exceeded"
  | wrongType found wanted =>
    "invalid type: " ++ found.message ++ ", expected " ++ wanted
  | missingField name => "missing field `" ++ name ++ "`"
  | duplicateField name => "duplicate field `" ++ name ++ "`"
  | wrongLength length wanted =>
    "invalid length " ++ toString length ++ ", expected " ++ wanted

-- ================================================================ faults

/-- A cause and how many bytes of the text were left when it was found. -/
structure Fault where
  cause : Cause
  left : Nat
  deriving DecidableEq, Repr

/-- A fault found with `rest` still unread. -/
def Fault.before (cause : Cause) (rest : List Char) : Fault :=
  ⟨cause, Text.Utf8.size rest⟩

/-- A fault found one byte into `rest`, or at its end. -/
def Fault.within (cause : Cause) (rest : List Char) : Fault :=
  ⟨cause, Text.Utf8.size rest - 1⟩

/-- Line and column after a number of bytes, counted on from a line and a
column. -/
def locate (line column : Nat) : (bytes : Nat) → List Char → Nat × Nat
  | bytes, [] => (line, column + bytes)
  | bytes, c :: rest =>
    if bytes < c.utf8Size then (line, column + bytes)
    else if c = '\n' then locate (line + 1) 0 (bytes - 1) rest
    else locate line (column + c.utf8Size) (bytes - c.utf8Size) rest

/-- The fault with its place in the text that was read. -/
def Fault.message (f : Fault) (whole : List Char) : String :=
  let (line, column) := locate 1 0 (Text.Utf8.size whole - f.left) whole
  f.cause.message ++ " at line " ++ toString line
    ++ " column " ++ toString column

end PairingHarness.Json
