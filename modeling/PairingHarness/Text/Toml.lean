/-
Strings as TOML writes them.

A string may stand between one quote on either side or three, and between
double quotes, where a backslash opens an escape, or single ones, where
every character stands for itself. The plainest form that can hold the value
is taken: double quotes if nothing needs an escape, single ones if that
helps, three of either if there are line breaks or quotes of both kinds, and
escapes as the last resort. A line break right after three quotes does not
belong to the value, so one is put there when the value has several lines.
-/

namespace PairingHarness.Text.Toml

-- ================================================================= forms

/-- The ways to write a string: between one quote or three on either side,
which are double ones or single ones. -/
inductive Form where
  | basic
  | literal
  | basicLines
  | literalLines
  deriving DecidableEq, Repr

/-- Whether a character cannot stand in a string as it is. -/
def needsEscape (c : Char) : Bool :=
  (c.toNat < 0x20 && c ≠ '\t' && c ≠ '\n') || c.toNat = 0x7f

/-- Whether some stretch of a character is longer than `limit`; `seen` of
them came just before. -/
def hasRun (limit : Nat) (c : Char) (seen : Nat) : List Char → Bool
  | [] => limit < seen
  | d :: rest =>
    if d = c then hasRun limit c (seen + 1) rest
    else limit < seen || hasRun limit c 0 rest

/-- The form in which a value is written. -/
def formOf (cs : List Char) : Form :=
  let isPlain := !cs.any needsEscape
  let hasLines := cs.contains '\n'
  let hasBackslash := cs.contains '\\'
  if isPlain && !hasBackslash && !cs.contains '"' && !hasLines then .basic
  else if isPlain && !cs.contains '\x27' && !hasLines then .literal
  else if isPlain && !hasBackslash && !hasRun 2 '"' 0 cs then .basicLines
  else if isPlain && !hasRun 2 '\x27' 0 cs then .literalLines
  else if hasLines then .basicLines
  else .basic

-- =============================================================== writing

def hexDigit (n : Nat) : Char :=
  (Nat.digitChar n).toUpper

/-- A character between double quotes, quotes and line breaks left aside. -/
def escaped (c : Char) : List Char :=
  if c = '\\' then ['\\', '\\']
  else if c = '\t' then ['\\', 't']
  else if c = '\x0d' then ['\\', 'r']
  else if c = '\x08' then ['\\', 'b']
  else if c = '\x0c' then ['\\', 'f']
  else if needsEscape c then
    ['\\', 'u', '0', '0', hexDigit (c.toNat / 16), hexDigit (c.toNat % 16)]
  else [c]

/-- A value between one double quote on either side. -/
def basicBody (cs : List Char) : List Char :=
  cs.flatMap fun c =>
    if c = '"' then ['\\', '"'] else if c = '\n' then ['\\', 'n'] else escaped c

/-- A value between three double quotes on either side: every third quote in
a row is escaped. The number is that of the quotes that came just before. -/
def basicLinesBody (quotes : Nat) : List Char → List Char
  | [] => []
  | c :: rest =>
    if c = '"' then
      if quotes = 2 then '\\' :: '"' :: basicLinesBody 0 rest
      else '"' :: basicLinesBody (quotes + 1) rest
    else if c = '\n' then '\n' :: basicLinesBody 0 rest
    else escaped c ++ basicLinesBody 0 rest

/-- The line break in front of a value of several lines. -/
def lineStart (cs : List Char) : List Char :=
  if cs.contains '\n' then ['\n'] else []

/-- A value in a form that can hold it. -/
def written (cs : List Char) : Form → List Char
  | .basic => ['"'] ++ basicBody cs ++ ['"']
  | .literal => ['\x27'] ++ cs ++ ['\x27']
  | .basicLines =>
    ['"', '"', '"'] ++ lineStart cs ++ basicLinesBody 0 cs ++ ['"', '"', '"']
  | .literalLines =>
    ['\x27', '\x27', '\x27'] ++ lineStart cs ++ cs ++ ['\x27', '\x27', '\x27']

/-- A value as a string. -/
def string (s : String) : String :=
  String.ofList (written s.toList (formOf s.toList))

/-- A key with its value, on lines of their own. The key is a bare one:
letters, digits and underscores. -/
def entry (key value : String) : String :=
  key ++ " = " ++ string value ++ "\n"

end PairingHarness.Text.Toml
