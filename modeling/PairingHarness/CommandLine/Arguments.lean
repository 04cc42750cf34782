/-
Arguments of the command line.

The first argument names a command; what follows are its flags, each with a
value, which stands in the same argument or in the next one. Scenarios and
overrides may be given many times, every other flag once. Arguments are
taken from left to right, and the first that is wrong, or that asks for help
or the version, decides.
-/
import PairingHarness.Decimal
import PairingHarness.Scenario.Timing
import PairingHarness.Supervisor

namespace PairingHarness.CommandLine

-- ============================================================== requests

/-- How the settings are shown. -/
inductive Format where
  | toml
  | env
  deriving DecidableEq, Repr

structure RunArguments where
  scenarios : List String
  overrides : List String
  timing : Timing
  startupGrace : Nat
  deriving DecidableEq, Repr

/-- What the command line is asked for. -/
inductive Request where
  | run (arguments : RunArguments)
  | list
  | config (format : Format)
  deriving DecidableEq, Repr

/-- Why no command is carried out. -/
inductive Stop where
  | misuse
  | help
  | version
  deriving DecidableEq, Repr

-- ================================================================= flags

/-- The flags of a run that take a number. -/
inductive NumberFlag where
  | settle
  | periodInterval
  | periodMaxIterations
  | closeGrace
  | startupGrace
  deriving DecidableEq, Repr

def NumberFlag.all : List NumberFlag :=
  [settle, periodInterval, periodMaxIterations, closeGrace, startupGrace]

def NumberFlag.name : NumberFlag → String
  | settle => "settle-ms"
  | periodInterval => "period-interval-ms"
  | periodMaxIterations => "period-max-iterations"
  | closeGrace => "close-grace-ms"
  | startupGrace => "startup-grace-ms"

/-- The number that holds where a flag is not given. -/
def NumberFlag.default : NumberFlag → Nat
  | settle => Timing.defaults.settle
  | periodInterval => Timing.defaults.periodInterval
  | periodMaxIterations => Timing.defaults.periodMaxIterations
  | closeGrace => Timing.defaults.closeGrace
  | startupGrace => Supervisor.defaultStartupGrace

/-- A minus sign and zeros, which writes zero. -/
def isMinusZero : List Char → Bool
  | '-' :: c :: rest => (c :: rest).all (· = '0')
  | _ => false

/-- The value of a flag. The number of iterations fits thirty-two bits and
is read with a sign, so that zero may have a minus; the other numbers fit
sixty-four. -/
def NumberFlag.read? (flag : NumberFlag) (value : String) : Option Nat :=
  match flag with
  | periodMaxIterations =>
    if isMinusZero value.toList then some 0
    else (Decimal.read Decimal.maxWord32 value.toList).toOption
  | _ => (Decimal.read Decimal.maxWord64 value.toList).toOption

/-- A flag of some command. -/
inductive Flag where
  | scenario
  | override
  | number (flag : NumberFlag)
  | format
  deriving DecidableEq, Repr

def Flag.name : Flag → String
  | scenario => "scenario"
  | override => "set"
  | number flag => flag.name
  | format => "format"

/-- The letter that stands for a flag. -/
def Flag.letter? : Flag → Option Char
  | scenario => some 's'
  | _ => none

def Flag.ofRun : List Flag :=
  [scenario, override] ++ NumberFlag.all.map number

def Flag.ofConfig : List Flag :=
  [format]

-- ============================================================= splitting

def asksForHelp (argument : String) : Bool :=
  argument = "--help" || argument.startsWith "-h"

/-- Whether an argument cannot be a value, because it looks like a flag. -/
def looksLikeFlag (argument : String) : Bool :=
  argument.startsWith "-" && argument ≠ "-"

/-- The flag that an argument opens, and the value in the same argument, if
one is there. -/
def openFlag? (flags : List Flag) (argument : String) :
    Option (Flag × Option String) :=
  match argument.toList with
  | '-' :: '-' :: rest =>
    let name := String.ofList (rest.takeWhile (· ≠ '='))
    let value := match rest.dropWhile (· ≠ '=') with
      | _ :: value => some (String.ofList value)
      | [] => none
    (flags.find? (·.name = name)).map (·, value)
  | '-' :: c :: rest =>
    let value := match rest with
      | [] => none
      | '=' :: value => some (String.ofList value)
      | value => some (String.ofList value)
    (flags.find? (·.letter? = some c)).map (·, value)
  | _ => none

/-- Takes arguments from left to right, each flag with its value. Two dashes
end the flags, and nothing may follow them. -/
def collect {σ : Type} (flags : List Flag)
    (take : σ → Flag → String → Option σ) (s : σ) :
    List String → Except Stop σ
  | [] => .ok s
  | ["--"] => .ok s
  | argument :: rest =>
    if asksForHelp argument then .error .help
    else match openFlag? flags argument, rest with
      | none, _ => .error .misuse
      | some (flag, some value), rest =>
        match take s flag value with
        | some s => collect flags take s rest
        | none => .error .misuse
      | some _, [] => .error .misuse
      | some (flag, none), value :: rest =>
        if looksLikeFlag value then .error .misuse
        else match take s flag value with
          | some s => collect flags take s rest
          | none => .error .misuse

-- ============================================================== commands

/-- The arguments of a run taken so far. -/
structure Given where
  scenarios : List String
  overrides : List String
  numbers : List (NumberFlag × Nat)
  deriving DecidableEq, Repr

def Given.take (g : Given) (flag : Flag) (value : String) : Option Given :=
  match flag with
  | .scenario => some { g with scenarios := g.scenarios ++ [value] }
  | .override => some { g with overrides := g.overrides ++ [value] }
  | .number n =>
    if (g.numbers.lookup n).isSome then none
    else
      (n.read? value).map fun v => { g with numbers := g.numbers ++ [(n, v)] }
  | .format => none

/-- The number of a flag, given or not. -/
def Given.number (g : Given) (flag : NumberFlag) : Nat :=
  (g.numbers.lookup flag).getD flag.default

/-- The arguments of a run once all are taken. -/
def Given.arguments (g : Given) : RunArguments where
  scenarios := g.scenarios
  overrides := g.overrides
  timing :=
    ⟨g.number .settle, g.number .periodInterval, g.number .periodMaxIterations,
      g.number .closeGrace⟩
  startupGrace := g.number .startupGrace

def Format.ofName? : String → Option Format
  | "toml" => some .toml
  | "env" => some .env
  | _ => none

/-- Takes the value of the one flag of showing the settings. -/
def takeFormat (given : Option Format) (_ : Flag) (value : String) :
    Option (Option Format) :=
  match given with
  | some _ => none
  | none => (Format.ofName? value).map some

def parse : List String → Except Stop Request
  | [] => .error .misuse
  | "run" :: rest =>
    (collect Flag.ofRun Given.take ⟨[], [], []⟩ rest).map
      fun g => .run g.arguments
  | "list" :: rest =>
    (collect [] (fun _ _ _ => none) () rest).map fun _ => .list
  | "config" :: rest =>
    (collect Flag.ofConfig takeFormat none rest).map
      fun f => .config (f.getD .toml)
  | first :: _ =>
    if asksForHelp first || first = "help" then .error .help
    else if first = "--version" || first.startsWith "-V" then .error .version
    else .error .misuse

end PairingHarness.CommandLine
