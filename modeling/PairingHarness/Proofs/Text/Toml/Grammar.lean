/-
The grammar of TOML, with no writer in sight.

Every relation reads a text from some place on: it says what stands
there, what that means, and what is left of the text behind it. A
document (`Document`) is made of lines with line breaks between them,
and it means the statements on its lines: values given to keys, and
headers of tables.

Strings are there in full (`Quoted`): the four forms, with the quotes
that may stand in a row inside of three, the escapes, the line break
right after the opening quotes and the one after a backslash, which both
stand for nothing. Of a value that is no string only its first character
is given, so that every document of TOML is a document here, and some
texts beyond those are. Hence a text that means one thing only by this
grammar means nothing else in TOML.

A line break in a string stands for itself: one that is written with two
characters is two characters.
-/
import PairingHarness.Json.Token
import PairingHarness.Text.Toml

namespace PairingHarness.Text.Toml

open Json (hexDigit?)

-- ========================================================== characters

/-- Blanks within a line. -/
def isBlank (c : Char) : Bool :=
  c = ' ' || c = '\t'

/-- The characters of line breaks. -/
def isLineEnd (c : Char) : Bool :=
  c = '\n' || c = '\x0d'

/-- What a backslash at the end of a line takes with it. -/
def isGap (c : Char) : Bool :=
  isBlank c || isLineEnd c

/-- Both kinds of quotes. -/
def isQuote (c : Char) : Bool :=
  c = '"' || c = '\x27'

/-- Characters that can stand for themselves in a string: all but
control characters, and the tab of those. -/
def isRaw (c : Char) : Bool :=
  c = '\t' || (0x20 ≤ c.toNat && c.toNat ≠ 0x7f)

/-- The characters of a key without quotes. -/
def isBare (c : Char) : Bool :=
  c.isAlphanum || c = '_' || c = '-'

/-- The characters of a comment. -/
def isRemark (c : Char) : Bool :=
  c = '\t' || 0x20 ≤ c.toNat

/-- The first characters of values that are no strings: of numbers,
dates and words, and the brackets of lists and tables. -/
def isOpener (c : Char) : Bool :=
  c.isAlphanum || c = '+' || c = '-' || c = '[' || c = '\x7b'

-- ================================================================ runs

/-- The text begins with `w`, all of one kind, and goes on with `r`. -/
structure Front (p : Char → Bool) (w s r : List Char) : Prop where
  append : w ++ r = s
  all : ∀ c ∈ w, p c = true

/-- The text goes on with `r` behind characters of one kind. -/
def Skips (p : Char → Bool) (s r : List Char) : Prop :=
  ∃ w, Front p w s r

/-- No character of the kind is next. -/
def Stops (p : Char → Bool) (r : List Char) : Prop :=
  ∀ c ∈ r.head?, p c = false

/-- A line break. -/
inductive LineBreak : (source text rest : List Char) → Prop where
  | lf {r : List Char} : LineBreak ('\n' :: r) ['\n'] r
  | crlf {r : List Char} :
      LineBreak ('\x0d' :: '\n' :: r) ['\x0d', '\n'] r

/-- Blanks and line breaks. -/
inductive Gap : (source rest : List Char) → Prop where
  | none {r : List Char} : Gap r r
  | blank {c : Char} {s r : List Char} (h : isBlank c = true) :
      Gap s r → Gap (c :: s) r
  | lineBreak {s b s' r : List Char} :
      LineBreak s b s' → Gap s' r → Gap s r

-- ============================================================= strings

namespace Form

/-- The quote around a string. -/
def quote : Form → Char
  | basic | basicLines => '"'
  | literal | literalLines => '\x27'

/-- Whether a string can have line breaks in it. -/
def hasLines : Form → Bool
  | basic | literal => false
  | basicLines | literalLines => true

/-- Whether a backslash opens an escape. -/
def hasEscapes : Form → Bool
  | basic | basicLines => true
  | literal | literalLines => false

/-- How many quotes can stand in a row inside the string. One more makes
its end. -/
def limit (f : Form) : Nat :=
  if f.hasLines then 2 else 0

/-- Quotes in a row. -/
def run (f : Form) (k : Nat) : List Char :=
  List.replicate k f.quote

end Form

/-- What a letter after a backslash stands for. -/
def escape? (c : Char) : Option Char :=
  if c = '"' then some '"'
  else if c = '\\' then some '\\'
  else if c = 'b' then some '\x08'
  else if c = 't' then some '\t'
  else if c = 'n' then some '\n'
  else if c = 'f' then some '\x0c'
  else if c = 'r' then some '\x0d'
  else none

/-- How many digits follow the letter of a numeric escape. -/
def digitCount? (c : Char) : Option Nat :=
  if c = 'u' then some 4 else if c = 'U' then some 8 else none

/-- The number that hexadecimal digits write. -/
def hexNumber? (digits : List Char) : Option Nat :=
  digits.foldlM (fun n c => (hexDigit? c).map (n * 16 + ·)) 0

/-- An escape without its backslash, and the character it stands for. -/
inductive Escape :
    (source : List Char) → (c : Char) → (rest : List Char) → Prop where
  | letter {c e : Char} {r : List Char} (h : escape? c = some e) :
      Escape (c :: r) e r
  | number {c : Char} {digits r : List Char} {v : Nat}
      (hcount : digitCount? c = some digits.length)
      (hvalue : hexNumber? digits = some v) (hvalid : v.isValidChar) :
      Escape (c :: (digits ++ r)) (Char.ofNat v) r

/-- What can stand between the quotes of a string, other than quotes
themselves, and the text that it stands for. -/
inductive Item (f : Form) : (source text rest : List Char) → Prop where
  | raw {c : Char} {r : List Char} (hraw : isRaw c = true)
      (hquote : c ≠ f.quote)
      (hslash : f.hasEscapes = true → c ≠ '\\') : Item f (c :: r) [c] r
  | lineBreak {s b r : List Char} (hlines : f.hasLines = true) :
      LineBreak s b r → Item f s b r
  | escape {s r : List Char} {c : Char} (hescapes : f.hasEscapes = true) :
      Escape s c r → Item f ('\\' :: s) [c] r
  /-- A backslash at the end of a line, with all blanks and line breaks
  up to what comes next. -/
  | fold {s s₁ b s₂ r : List Char} (hescapes : f.hasEscapes = true)
      (hlines : f.hasLines = true) :
      Skips isBlank s s₁ → LineBreak s₁ b s₂ → Gap s₂ r →
      Stops isGap r → Item f ('\\' :: s) [] r

/-- A string behind its opening quotes, with its closing quotes: items
with quotes between them. Quotes right before the closing ones still
belong to the text. -/
inductive Body (f : Form) : (source text rest : List Char) → Prop where
  | close {k : Nat} {r : List Char} (hk : k ≤ f.limit) :
      Body f (f.run (k + (f.limit + 1)) ++ r) (f.run k) r
  | item {k : Nat} {s t s' u r : List Char} (hk : k ≤ f.limit) :
      Item f s t s' → Body f s' u r →
      Body f (f.run k ++ s) (f.run k ++ (t ++ u)) r

/-- A string of a form, and the text that it stands for. -/
inductive Quoted (f : Form) : (source text rest : List Char) → Prop where
  | flush {s t r : List Char} (h : f.hasLines = true → Stops isLineEnd s) :
      Body f s t r → Quoted f (f.run (f.limit + 1) ++ s) t r
  /-- A line break right after the opening quotes stands for nothing. -/
  | opened {s b s' t r : List Char} (hlines : f.hasLines = true) :
      LineBreak s b s' → Body f s' t r →
      Quoted f (f.run (f.limit + 1) ++ s) t r

-- ================================================= keys and statements

/-- A key, or a part of one with dots. -/
inductive KeyPart :
    (source : List Char) → (name : String) → (rest : List Char) → Prop where
  | bare {w s r : List Char} (hne : w ≠ []) :
      Front isBare w s r → KeyPart s (String.ofList w) r
  | quoted {f : Form} {s t r : List Char} (hline : f.hasLines = false) :
      Quoted f s t r → KeyPart s (String.ofList t) r

/-- A key, in parts from the outermost table on. -/
inductive Key : (source : List Char) → (path : List String) →
    (rest : List Char) → Prop where
  | part {s r : List Char} {name : String} :
      KeyPart s name r → Key s [name] r
  | dotted {s s₁ s₂ s₃ r : List Char} {name : String}
      {path : List String} :
      KeyPart s name s₁ → Skips isBlank s₁ ('.' :: s₂) →
      Skips isBlank s₂ s₃ → Key s₃ path r → Key s (name :: path) r

/-- A value: the text of a string, or how another one is written. -/
inductive Value where
  | string (text : String)
  | other (source : String)
  deriving DecidableEq, Repr

/-- A value as it is written. -/
inductive ValueForm : (source : List Char) → (value : Value) →
    (rest : List Char) → Prop where
  | string {f : Form} {s t r : List Char} :
      Quoted f s t r → ValueForm s (.string (String.ofList t)) r
  | other {c : Char} {s r : List Char} (h : isOpener c = true) :
      ValueForm (c :: (s ++ r)) (.other (String.ofList (c :: s))) r

/-- What a line can state. -/
inductive Statement where
  /-- A key has a value. -/
  | entry (path : List String) (value : Value)
  /-- The keys that follow are those of a table. -/
  | table (path : List String)
  /-- The keys that follow are those of a new table in a list. -/
  | element (path : List String)
  deriving DecidableEq, Repr

/-- What stands on a line between its blanks, if anything. -/
inductive Content : (source : List Char) → (statements : List Statement) →
    (rest : List Char) → Prop where
  | none {r : List Char} : Content r [] r
  | entry {s s₁ s₂ s₃ r : List Char} {path : List String} {value : Value} :
      Key s path s₁ → Skips isBlank s₁ ('=' :: s₂) →
      Skips isBlank s₂ s₃ → ValueForm s₃ value r →
      Content s [.entry path value] r
  | table {s s₁ s₂ r : List Char} {path : List String} :
      Skips isBlank s s₁ → Key s₁ path s₂ → Skips isBlank s₂ (']' :: r) →
      Content ('[' :: s) [.table path] r
  | element {s s₁ s₂ r : List Char} {path : List String} :
      Skips isBlank s s₁ → Key s₁ path s₂ →
      Skips isBlank s₂ (']' :: ']' :: r) →
      Content ('[' :: '[' :: s) [.element path] r

/-- A comment, if there is one. -/
inductive Comment : (source rest : List Char) → Prop where
  | none {r : List Char} : Comment r r
  | some {s r : List Char} : Skips isRemark s r → Comment ('#' :: s) r

/-- A line, its line break left aside. -/
inductive Line : (source : List Char) → (statements : List Statement) →
    (rest : List Char) → Prop where
  | intro {s s₁ s₂ s₃ r : List Char} {statements : List Statement} :
      Skips isBlank s s₁ → Content s₁ statements s₂ →
      Skips isBlank s₂ s₃ → Comment s₃ r → Line s statements r

/-- A document. -/
inductive Document :
    (source : List Char) → (statements : List Statement) → Prop where
  | last {s : List Char} {statements : List Statement} :
      Line s statements [] → Document s statements
  | next {s s₁ b s₂ : List Char} {statements later : List Statement} :
      Line s statements s₁ → LineBreak s₁ b s₂ → Document s₂ later →
      Document s (statements ++ later)

-- ============================================================== tables

/-- The key that a statement is about. -/
def Statement.path : Statement → List String
  | entry path _ | table path | element path => path

/-- Statements that make one table, of strings only: each gives a string
to a key, and no key comes twice. `look` finds the strings. -/
structure IsTable (statements : List Statement)
    (look : String → Option String) : Prop where
  entries : ∀ x ∈ statements, ∃ key value,
    x = .entry [key] (.string value)
  distinct : (statements.map Statement.path).Nodup
  look_iff : ∀ key value, look key = some value
    ↔ .entry [key] (.string value) ∈ statements

/-- By the grammar a text is one table of strings and nothing else. -/
def ReadsAs (text : List Char) (look : String → Option String) : Prop :=
  ∃ statements, (∀ xs, Document text xs ↔ xs = statements)
    ∧ IsTable statements look

end PairingHarness.Text.Toml
