/-
The line in which a host tells of a process.

It holds the process's number, the name of its command in parentheses, a
letter for its state, the number of its parent and further numbers. The name
may hold anything, closing parentheses included, so the fields are counted
from the last closing parenthesis on. A line that is no text tells nothing.
-/
import PairingHarness.Decimal
import PairingHarness.Host.Table
import PairingHarness.Text.Blank

namespace PairingHarness.Host.Stat

-- =============================================================== writing

def ascii (s : String) : List UInt8 :=
  s.toList.map fun c => UInt8.ofNat c.toNat

def runningLetter : Char := 'S'

def endedLetter : Char := 'Z'

/-- The letter for the state of a process. -/
def letter (e : Entry) : Char :=
  if e.isRunning then runningLetter else endedLetter

/-- A line with any state, parent and further text. -/
def line (pid : Pid) (name : List UInt8) (state : Char) (parent : Pid)
    (more : String) :
    List UInt8 :=
  ascii (toString pid ++ " (") ++ name
    ++ ascii (") " ++ String.singleton state ++ " " ++ toString parent ++ more)

/-- The line of a process. -/
def ofEntry (e : Entry) : List UInt8 :=
  line e.pid e.name (letter e) e.parent " 0 0 0"

-- =============================================================== reading

/-- The first word of a text and what follows it, blanks between words
passed over. -/
def splitWord (s : List Char) : List Char × List Char :=
  let s := s.dropWhile Text.isBlank
  (s.takeWhile (!Text.isBlank ·), s.dropWhile (!Text.isBlank ·))

/-- What follows the last closing parenthesis. -/
def afterName? (s : List Char) : Option (List Char) :=
  if s.contains ')' then some (s.reverse.takeWhile (· ≠ ')')).reverse else none

/-- The state letter and the parent that a line tells (`read_proc_stat`). -/
def read (bytes : List UInt8) : Option (Char × Pid) := do
  let text ← (Text.Utf8.decodeFrom 0 none bytes).toOption
  let fields ← afterName? text
  let (state, rest) := splitWord fields
  let letter ← state.head?
  let parent ← (Decimal.read Decimal.maxWord32 (splitWord rest).1).toOption
  return (letter, parent)

/-- Whether a state letter is that of a process that is still alive. -/
def isAlive (letter : Char) : Bool :=
  letter ≠ 'Z' && letter ≠ 'X'

/-- Whether a line tells of a process that is still alive. -/
def tellsAlive (bytes : List UInt8) : Bool :=
  (read bytes).any fun r => isAlive r.1

end PairingHarness.Host.Stat
