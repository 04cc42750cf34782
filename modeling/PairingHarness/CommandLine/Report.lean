/-
What the command line prints.

A run prints where it is made, a line for each scenario that ended, and how
it ended. A scenario that fails is shown with the failure that ended it; the
last part of the report shows the failure of the run, which names the
scenario as well, and the advice that goes with it.
-/
import PairingHarness.Conformance
import PairingHarness.Decimal.Tenths
import PairingHarness.Text.Toml

namespace PairingHarness.CommandLine

-- ================================================================ output

/-- What a command leaves. -/
structure Output where
  exit : Nat
  stdout : String
  stderr : String
  deriving DecidableEq, Repr

def Output.success (stdout : String) : Output :=
  ⟨0, stdout, ""⟩

def Output.failure (stdout reason : String) : Output :=
  ⟨1, stdout, "Error: " ++ reason ++ "\n"⟩

-- ================================================================== list

def nameWidth : Nat := 14

def padded (name : String) : String :=
  name ++ String.ofList (List.replicate (nameWidth - name.length) ' ')

/-- All scenarios in their order. -/
def scenarioList : String :=
  "Scenarios:\n" ++ String.join (ScenarioKind.all.map fun k =>
    "  " ++ padded k.name ++ " " ++ k.description ++ "\n")

-- ============================================================== settings

/-- The options that are set, as TOML. -/
def shownAsToml (s : Settings) : String :=
  String.join (s.entries.map fun e => Text.Toml.entry e.1.name e.2)

def shownAsEnv (s : Settings) : String :=
  String.join (s.launchEnv.entries.map fun e => e.1 ++ "=" ++ e.2 ++ "\n")

-- ================================================================== runs

/-- Where a run is made. -/
def opening (s : Settings) : String :=
  if s.launchesService then
    "Launching " ++ s.appPath ++ " on " ++ s.baseUrl ++ "\n"
  else "Testing running service at " ++ s.baseUrl ++ "\n"

/-- The failure that ended a scenario, without the scenario's name. -/
def innermost : Failure → Failure
  | .scenarioFailed _ cause => cause
  | e => e

/-- What is printed at a point of progress. -/
def progressLine : Conformance.Progress → String
  | .started _ => ""
  | .passed kind elapsed =>
    "  ✓ " ++ padded kind.name ++ " " ++ Decimal.seconds elapsed ++ "s\n"
  | .failed kind e =>
    "  × " ++ padded kind.name ++ " " ++ (innermost e).message ++ "\n"

/-- How a run ended in which every scenario passed. -/
def closing (s : Conformance.Summary) : String :=
  "\n✓ All scenarios passed (" ++ toString s.passed.length ++ " scenarios in "
    ++ Decimal.seconds s.elapsed ++ "s)\n"

/-- A failure with the advice that goes with it. -/
def failureLines (e : Failure) : String :=
  "\nERR:: " ++ e.message ++ "\n" ++
    match e.hint with
    | some hint => "  → " ++ hint ++ "\n"
    | none => ""

def runReport (s : Settings) (a : Conformance.Account Conformance.Summary) :
    Output :=
  let shown := opening s ++ String.join (a.progress.map progressLine)
  match a.result with
  | .ok summary => .success (shown ++ closing summary)
  | .error e => .failure (shown ++ failureLines e) "conformance run failed"

end PairingHarness.CommandLine
