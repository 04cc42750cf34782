/-
The options of a conformance run.

Eight options say how to reach the service, how to launch it and which
limits it enforces. Each has a default; variables and overrides replace the
value as the raw text, which is read as a number only when a reader asks for
one. Two options may be unset: giving them a blank value unsets them.
Variables that name no option are passed over; an override that names none
is an error, and overrides are applied in the order of their keys, all or
none.
-/
import PairingHarness.Dictionary
import PairingHarness.Failure
import PairingHarness.Text.Blank
import PairingHarness.Text.Letter

namespace PairingHarness

-- ========================================================== option names

/-- The options. -/
inductive OptionName where
  | port
  | protocol
  | appPath
  | host
  | maxExchanges
  | maxData
  | mmdbLoc
  | timeout
  deriving DecidableEq, Repr

namespace OptionName

def all : List OptionName :=
  [port, protocol, appPath, host, maxExchanges, maxData, mmdbLoc, timeout]

def name : OptionName → String
  | port => "port"
  | protocol => "protocol"
  | appPath => "app_path"
  | host => "host"
  | maxExchanges => "max_exchanges"
  | maxData => "max_data"
  | mmdbLoc => "mmdb_loc"
  | timeout => "timeout"

def ofName? (s : String) : Option OptionName :=
  all.find? (·.name == s)

end OptionName

-- ============================================================== settings

/-- A value for every option. -/
structure Settings where
  port : String
  protocol : String
  /-- Shell command that launches the service; blank when it runs already. -/
  appPath : String
  host : String
  maxExchanges : String
  maxData : String
  mmdbLoc : Option String
  /-- Lifetime of a channel in seconds, if it has one. -/
  timeout : Option String
  deriving DecidableEq, Repr

/-- Overrides of options for one run, by name. -/
abbrev Overrides := Dictionary

namespace Settings

def defaults : Settings where
  port := "8000"
  protocol := "ws"
  appPath := "../target/debug/channelserver"
  host := "localhost"
  maxExchanges := "5"
  maxData := "3096"
  mmdbLoc := some "../mmdb/latest/GeoLite2-City.mmdb"
  timeout := none

/-- A blank value of an optional option means that it is not set. -/
def unlessBlank (value : String) : Option String :=
  if Text.isBlankText value then none else some value

/-- The settings with one option given a value. -/
def set (s : Settings) (option : OptionName) (value : String) : Settings :=
  match option with
  | .port => { s with port := value }
  | .protocol => { s with protocol := value }
  | .appPath => { s with appPath := value }
  | .host => { s with host := value }
  | .maxExchanges => { s with maxExchanges := value }
  | .maxData => { s with maxData := value }
  | .mmdbLoc => { s with mmdbLoc := unlessBlank value }
  | .timeout => { s with timeout := unlessBlank value }

/-- The raw value of an option, where it is set. -/
def get (s : Settings) : OptionName → Option String
  | .port => some s.port
  | .protocol => some s.protocol
  | .appPath => some s.appPath
  | .host => some s.host
  | .maxExchanges => some s.maxExchanges
  | .maxData => some s.maxData
  | .mmdbLoc => s.mmdbLoc
  | .timeout => s.timeout

/-- The raw value of the option of this name, where there is one and it is
set. -/
def getNamed (s : Settings) (name : String) : Option String :=
  (OptionName.ofName? name).bind s.get

def entries (s : Settings) : List (OptionName × String) :=
  OptionName.all.filterMap fun o => (s.get o).map (o, ·)

-- ============================================================= variables

/-- What the variables that set options start with. -/
def variableStart : String := "TEST_"

/-- What follows `front` in a text that starts with it. -/
def after? : (front text : List Char) → Option (List Char)
  | [], text => some text
  | _ :: _, [] => none
  | f :: front, c :: text => if f = c then after? front text else none

/-- The option that a variable sets: the name after `TEST_`, in any letter
case. -/
def optionOfVariable? (key : String) : Option OptionName :=
  (after? variableStart.toList key.toList).bind fun rest =>
    OptionName.ofName? (Text.lower (String.ofList rest))

/-- Sets the option that a variable names, if it names one: a step of
`from_vars`. -/
def setVariable (s : Settings) (var : String × String) : Settings :=
  match optionOfVariable? var.1 with
  | some o => s.set o var.2
  | none => s

/-- The defaults with the variables applied in the order given
(`from_vars`). -/
def ofVariables (vars : List (String × String)) : Settings :=
  vars.foldl setVariable defaults

-- ============================================================= overrides

/-- Sets the option that an override names, in any letter case (`set`). -/
def setOverride (s : Settings) (override : String × String) :
    Except Failure Settings :=
  match OptionName.ofName? (Text.lower override.1) with
  | some o => .ok (s.set o override.2)
  | none => .error (.unknownOption (Text.lower override.1))

/-- The settings with all overrides applied, least key first; the first that
names no option is the failure (`with_overrides`). -/
def withOverrides (s : Settings) (overrides : Overrides) :
    Except Failure Settings :=
  overrides.entries.foldlM setOverride s

-- =============================================================== address

/-- Where the service is reached. -/
def baseUrl (s : Settings) : String :=
  s.protocol ++ "://" ++ s.host ++ ":" ++ s.port

/-- Whether the service is to be launched. -/
def launchesService (s : Settings) : Bool :=
  !Text.isBlankText s.appPath

end Settings

end PairingHarness
