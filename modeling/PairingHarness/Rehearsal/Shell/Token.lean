/-
Tokens of the shell.

A command line is read character by character into words, operators and the
marks of redirections. Blanks end a word; quotes and the backslash take
characters as they stand; a dollar sign opens a parameter; a number sign
where a word would start opens a comment to the end of the line. Lines that
need what is not known here, such as the output of a command as a word, are
refused.
-/
import PairingHarness.Rehearsal.Shell.Command

namespace PairingHarness.Rehearsal.Shell

-- ================================================================ tokens

/-- What separates and joins commands. -/
inductive Operator where
  | semicolon
  | newline
  | ampersand
  | andIf
  | orIf
  | bar
  | opening
  | closing
  deriving DecidableEq, Repr

/-- A token of a command line. -/
inductive Token where
  | word (w : Word)
  | operator (o : Operator)
  /-- The target is the word that follows. -/
  | redirection (stream : Nat) (direction : Direction)
  deriving DecidableEq, Repr

-- ================================================================ lexing

/-- What the next character belongs to. -/
inductive Mode where
  | plain
  | comment
  | singleQuoted
  | doubleQuoted
  | escaped (isQuoted : Bool)
  | dollar (isQuoted : Bool)
  /-- In the name of a parameter; the characters so far, last first. -/
  | name (isQuoted : Bool) (read : List Char)
  /-- In a parameter between braces. -/
  | braced (isQuoted : Bool) (read : List Char)
  | doubled (first : Char) (stream : Option Nat)
  deriving DecidableEq, Repr

/-- A command line read up to some character. -/
structure Lexer where
  tokens : List Token
  word : Option Word
  mode : Mode
  deriving DecidableEq, Repr

namespace Lexer

def start : Lexer :=
  ⟨[], none, .plain⟩

/-- Ends the word that is being read, if one is. -/
def endWord (l : Lexer) : Lexer :=
  match l.word with
  | none => l
  | some w => { l with tokens := .word w :: l.tokens, word := none }

def emit (l : Lexer) (t : Token) : Lexer :=
  { l with tokens := t :: l.tokens }

/-- Puts a text at the end of a word, into its last piece where that is of
the same kind. -/
def addText (isQuoted : Bool) (s : String) : Word → Word
  | [] => [.text isQuoted s]
  | [.text q t] =>
    if q = isQuoted then [.text q (t ++ s)] else [.text q t, .text isQuoted s]
  | p :: rest => p :: addText isQuoted s rest

/-- Puts a text at the end of the word that is being read. -/
def push (l : Lexer) (isQuoted : Bool) (s : String) : Lexer :=
  { l with word := some (addText isQuoted s (l.word.getD [])) }

/-- Puts a parameter at the end of the word that is being read. -/
def pushParameter (l : Lexer) (isQuoted : Bool) (name : String)
    (alternative : Option Alternative) : Lexer :=
  let piece : Piece := .parameter isQuoted name alternative
  { l with word := some (l.word.getD [] ++ [piece]) }

/-- The mode around a piece. -/
def around (isQuoted : Bool) : Mode :=
  if isQuoted then .doubleQuoted else .plain

def isNameChar (c : Char) : Bool :=
  c.isAlphanum || c = '_'

/-- The parameters whose names are one character that stands in no name. -/
def isSpecial (c : Char) : Bool :=
  ['$', '?', '!', '@', '*', '-'].contains c || c = '#'

/-- The number of the stream that a redirection names in front of its mark:
a word of digits. -/
def streamNumber? (l : Lexer) : Option Nat :=
  (l.word.bind Word.bare?).bind number?

/-- An operator of one or two characters, outside quotes. -/
def startOperator (l : Lexer) (c : Char) : Lexer :=
  if c = '<' || c = '>' then
    match l.streamNumber? with
    | some n => { l with word := none, mode := .doubled c (some n) }
    | none => { l.endWord with mode := .doubled c none }
  else { l.endWord with mode := .doubled c none }

/-- Takes a character outside quotes. -/
def stepPlain (l : Lexer) (c : Char) : Option Lexer :=
  if c = ' ' || c = '\t' then some l.endWord
  else if c = '\n' then some (l.endWord.emit (.operator .newline))
  else if c = ';' then some (l.endWord.emit (.operator .semicolon))
  else if c = '(' then some (l.endWord.emit (.operator .opening))
  else if c = ')' then some (l.endWord.emit (.operator .closing))
  else if ['&', '|', '<', '>'].contains c then some (l.startOperator c)
  else if c = '#' && l.word.isNone then some { l with mode := .comment }
  else if c = '\x27' then some { l.push true "" with mode := .singleQuoted }
  else if c = '"' then some { l.push true "" with mode := .doubleQuoted }
  else if c = '\\' then some { l with mode := .escaped false }
  else if c = '$' then some { l with mode := .dollar false }
  else if c = '\x60' then none
  else some (l.push false (String.singleton c))

/-- Takes a character between double quotes. -/
def stepDoubleQuoted (l : Lexer) (c : Char) : Option Lexer :=
  if c = '"' then some { l with mode := .plain }
  else if c = '\\' then some { l with mode := .escaped true }
  else if c = '$' then some { l with mode := .dollar true }
  else if c = '\x60' then none
  else some (l.push true (String.singleton c))

/-- Takes a character in the mode around a piece. -/
def stepAround (l : Lexer) (isQuoted : Bool) (c : Char) : Option Lexer :=
  let l := { l with mode := around isQuoted }
  if isQuoted then l.stepDoubleQuoted c else l.stepPlain c

/-- Takes the character after a backslash. Between double quotes it takes
the special meaning off a few characters only, and stands itself before any
other. -/
def stepEscaped (l : Lexer) (isQuoted : Bool) (c : Char) : Lexer :=
  let l := { l with mode := around isQuoted }
  if c = '\n' then l
  else if !isQuoted || ['$', '\x60', '"', '\\'].contains c then
    l.push true (String.singleton c)
  else l.push true (String.ofList ['\\', c])

/-- The parameter between braces. -/
def readBraced? (isQuoted : Bool) (inner : List Char) : Option Piece :=
  let name := inner.takeWhile isNameChar
  let (name, rest) := match name, inner with
    | [], c :: rest => if isSpecial c then ([c], rest) else ([], inner)
    | _, _ => (name, inner.dropWhile isNameChar)
  let (emptyIsUnset, rest) := match rest with
    | ':' :: rest => (true, rest)
    | _ => (false, rest)
  let parameter := Piece.parameter isQuoted (String.ofList name)
  if name.isEmpty then none
  else match rest with
    | [] => if emptyIsUnset then none else some (parameter none)
    | '-' :: text =>
      some (parameter (some ⟨false, emptyIsUnset, String.ofList text⟩))
    | '+' :: text =>
      some (parameter (some ⟨true, emptyIsUnset, String.ofList text⟩))
    | _ => none

/-- Takes the character after a dollar sign. -/
def stepDollar (l : Lexer) (isQuoted : Bool) (c : Char) : Option Lexer :=
  if c = '\x7b' then some { l with mode := .braced isQuoted [] }
  else if c = '(' then none
  else if isSpecial c || c.isDigit then
    some { l.pushParameter isQuoted (String.singleton c) none with
      mode := around isQuoted }
  else if isNameChar c then some { l with mode := .name isQuoted [c] }
  else (l.push isQuoted "$").stepAround isQuoted c

def endName (l : Lexer) (isQuoted : Bool) (read : List Char) : Lexer :=
  { l.pushParameter isQuoted (String.ofList read.reverse) none with
    mode := around isQuoted }

/-- The direction of a redirection by its mark. -/
def directionOf (c : Char) : Direction :=
  if c = '<' then .readFrom else .writeTo

/-- The stream of a redirection that names none. -/
def streamOf (c : Char) : Nat :=
  if c = '<' then 0 else 1

/-- Ends an operator that turned out to have one character. -/
def endOperator (l : Lexer) (first : Char) (stream : Option Nat) : Lexer :=
  let token : Token :=
    if first = '&' then .operator .ampersand
    else if first = '|' then .operator .bar
    else .redirection (stream.getD (streamOf first)) (directionOf first)
  { l.emit token with mode := .plain }

/-- Takes the character after the first of an operator that may have two. -/
def stepDoubled (l : Lexer) (first : Char) (stream : Option Nat) (c : Char) :
    Option Lexer :=
  let two (t : Token) : Option Lexer := some { l.emit t with mode := .plain }
  if first = '&' && c = '&' then two (.operator .andIf)
  else if first = '|' && c = '|' then two (.operator .orIf)
  else if first = '>' && c = '>' then
    two (.redirection (stream.getD 1) .appendTo)
  else if first = '>' && c = '|' then
    two (.redirection (stream.getD 1) .writeTo)
  else if (first = '>' || first = '<') && c = '&' then
    two (.redirection (stream.getD (streamOf first)) .sameAs)
  else if first = '<' && (c = '<' || c = '>') then none
  else (l.endOperator first stream).stepPlain c

/-- Takes the next character; nothing where the line cannot be read. -/
def step (l : Lexer) (c : Char) : Option Lexer :=
  match l.mode with
  | .plain => l.stepPlain c
  | .comment =>
    if c = '\n' then { l with mode := .plain }.stepPlain c else some l
  | .singleQuoted =>
    if c = '\x27' then some { l with mode := .plain }
    else some (l.push true (String.singleton c))
  | .doubleQuoted => l.stepDoubleQuoted c
  | .escaped isQuoted => some (l.stepEscaped isQuoted c)
  | .dollar isQuoted => l.stepDollar isQuoted c
  | .name isQuoted read =>
    if isNameChar c then some { l with mode := .name isQuoted (c :: read) }
    else (l.endName isQuoted read).stepAround isQuoted c
  | .braced isQuoted read =>
    if c = '\x7d' then
      (readBraced? isQuoted read.reverse).map fun p =>
        { l with word := some (l.word.getD [] ++ [p]), mode := around isQuoted }
    else some { l with mode := .braced isQuoted (c :: read) }
  | .doubled first stream => l.stepDoubled first stream c

/-- The tokens once the line is over; nothing where it ends inside quotes or
braces. -/
def finish (l : Lexer) : Option (List Token) :=
  match l.mode with
  | .plain | .comment => some l.endWord.tokens.reverse
  | .dollar false => some (l.push false "$").endWord.tokens.reverse
  | .escaped false => some (l.push true "\\").endWord.tokens.reverse
  | .name false read => some (l.endName false read).endWord.tokens.reverse
  | .doubled first stream => some (l.endOperator first stream).tokens.reverse
  | _ => none

end Lexer

def tokens? (line : String) : Option (List Token) :=
  (line.toList.foldlM Lexer.step Lexer.start).bind Lexer.finish

end PairingHarness.Rehearsal.Shell
