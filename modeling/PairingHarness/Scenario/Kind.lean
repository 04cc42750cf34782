/-
The scenarios by name.

Each scenario checks one thing that the contract of the service promises. A
name is read with the blanks around it taken off, in any letter case, a dash
standing for an underscore.
-/
import PairingHarness.Failure
import PairingHarness.Text.Blank
import PairingHarness.Text.Letter

namespace PairingHarness

/-- A promise of the contract that a run can check. -/
inductive ScenarioKind where
  | simpleRelay
  | fullExchange
  | maxData
  | maxExchange
  | maxPeriod
  | badChannel
  deriving DecidableEq, Repr

namespace ScenarioKind

def all : List ScenarioKind :=
  [simpleRelay, fullExchange, maxData, maxExchange, maxPeriod, badChannel]

/-- The name on the command line and in reports. -/
def name : ScenarioKind → String
  | simpleRelay => "simple_relay"
  | fullExchange => "full_exchange"
  | maxData => "max_data"
  | maxExchange => "max_exchange"
  | maxPeriod => "max_period"
  | badChannel => "bad_channel"

/-- What the scenario checks, in one line. -/
def description : ScenarioKind → String
  | simpleRelay =>
    "a message from the initiator reaches the peer with sender metadata"
  | fullExchange =>
    "a short and a large random payload both relay byte-for-byte"
  | maxData => "a payload at the byte ceiling closes the peer's session"
  | maxExchange =>
    "exactly max_exchanges messages relay; the next one closes the channel"
  | maxPeriod => "the service closes a channel that outlives its lifetime"
  | badChannel => "a fabricated channel id is refused or closed immediately"

/-- A dash counts as an underscore. -/
def undash (c : Char) : Char :=
  if c = '-' then '_' else c

/-- A name as the scenarios spell theirs. -/
def normalName (s : String) : String :=
  String.ofList ((Text.trimmed s.toList).map fun c => undash c.toLower)

/-- The scenario that a name means (`from_str`). -/
def ofName (s : String) : Except Failure ScenarioKind :=
  match all.find? (·.name == normalName s) with
  | some kind => .ok kind
  | none => .error (.unknownScenario s)

end ScenarioKind

end PairingHarness
