/-
Carrying out what the command line is asked for.

Before a run does anything, all that it was given is checked: the names of
the scenarios from left to right, then the overrides from left to right,
then the names of the options that they override. The first fault is all
that is reported.
-/
import PairingHarness.CommandLine.Arguments
import PairingHarness.CommandLine.Report

namespace PairingHarness.CommandLine

open Host Network

-- ============================================================== checking

/-- Why a run is not made. -/
inductive Rejection where
  | unknownScenario (name : String)
  /-- An override is no key and value. -/
  | notAPair (text : String)
  | badOverride (failure : Failure)
  deriving DecidableEq, Repr

/-- Puts spaces in front of every line of a text. -/
def indented (text : String) : String :=
  "    " ++ text.replace "\n" "\n    "

def Rejection.message : Rejection → String
  | unknownScenario name =>
    "Run 'pairtest list' to see available scenarios\n\nCaused by:\n"
      ++ indented (Failure.unknownScenario name).message
  | notAPair text =>
    "invalid override " ++ Text.quoted text ++ ": expected KEY=VALUE"
  | badOverride e => e.message

/-- The scenarios of these names, in their order; all scenarios where there
is no name (`select_scenarios`). -/
def selectScenarios (names : List String) :
    Except Rejection (List ScenarioKind) :=
  if names.isEmpty then .ok ScenarioKind.all
  else names.mapM fun name =>
    match ScenarioKind.ofName name with
    | .ok kind => .ok kind
    | .error _ => .error (.unknownScenario name)

/-- The key and the value of an override: what stands before the first
equals sign, the blanks around it taken off and its letters made small, and
what stands behind it. -/
def splitOverride (text : String) : Except Rejection (String × String) :=
  match text.toList.dropWhile (· ≠ '=') with
  | [] => .error (.notAPair text)
  | _ :: value =>
    let key := text.toList.takeWhile (· ≠ '=')
    .ok (Text.lower (String.ofList (Text.trimmed key)), String.ofList value)

/-- The overrides; the last value of a key counts (`parse_overrides`). -/
def readOverrides (texts : List String) : Except Rejection Overrides :=
  (texts.mapM splitOverride).map Dictionary.ofPairs

/-- A run that can be made: its plan, the settings that it has in effect,
and its scenarios. -/
structure Checked where
  plan : Conformance.Plan
  effective : Settings
  kinds : List ScenarioKind

/-- Checks all that a run was given. -/
def check (s : Settings) (a : RunArguments) : Except Rejection Checked := do
  let kinds ← selectScenarios a.scenarios
  let overrides ← readOverrides a.overrides
  let plan : Conformance.Plan := ⟨s, overrides, a.timing, a.startupGrace⟩
  match plan.effective with
  | .ok effective => return ⟨plan, effective, kinds⟩
  | .error e => throw (.badOverride e)

-- ========================================================== carrying out

def versionLine : String := "pairtest 0.1.0\n"

def usage : String :=
  "Conformance tests for two-party WebSocket pairing services\n\n"
    ++ "Usage: pairtest run [-s SCENARIO]... [--set KEY=VALUE]... [--settle-ms N]\n"
    ++ "           [--period-interval-ms N] [--period-max-iterations N]\n"
    ++ "           [--close-grace-ms N] [--startup-grace-ms N]\n"
    ++ "       pairtest list\n"
    ++ "       pairtest config [--format toml|env]\n"

/-- What is left where no command is carried out. -/
def Stop.output : Stop → Output
  | misuse => ⟨2, "", usage⟩
  | help => .success usage
  | version => .success versionLine

/-- Makes a run. Nothing is left where it never ends. -/
def makeRun (s : Settings) (a : RunArguments) (chances : Nat → Chance)
    (w : World) (m : Machine) : Option Output × World × Machine :=
  match check s a with
  | .error r => (some (.failure "" r.message), w, m)
  | .ok c =>
    match Conformance.run c.plan chances c.kinds w m with
    | (.done account, w, m) => (some (runReport c.effective account), w, m)
    | (.failed e, w, m) => (some (.failure "" e.message), w, m)
    | (.stalled, w, m) => (none, w, m)

/-- Carries out what the arguments ask for, in an environment. -/
def respond (arguments : List String) (vars : List (String × String))
    (chances : Nat → Chance) (w : World) (m : Machine) :
    Option Output × World × Machine :=
  let s := Settings.ofVariables vars
  match parse arguments with
  | .error stop => (some stop.output, w, m)
  | .ok .list => (some (.success scenarioList), w, m)
  | .ok (.config .toml) => (some (.success (shownAsToml s)), w, m)
  | .ok (.config .env) => (some (.success (shownAsEnv s)), w, m)
  | .ok (.run a) => makeRun s a chances w m

end PairingHarness.CommandLine
