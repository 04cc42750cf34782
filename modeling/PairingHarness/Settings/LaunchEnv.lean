/-
The environment of a launched service.

Each option that is set, the launch command apart, is handed to the service
as a variable: `PAIR_` and the option's name in capitals. Overrides are laid
on top by name, whatever they name and whatever they hold, the launch
command again apart; of two names that differ in letter case only, the later
one in key order wins.
-/
import PairingHarness.Settings.Basic

namespace PairingHarness.Settings

def launchStart : String := "PAIR_"

/-- The variable that hands an option to the service (`launch_var`). -/
def launchVariable (name : String) : String :=
  launchStart ++ Text.upper name

/-- Lays the options that are set over an environment, one variable each,
the command left out. -/
def launchPairs (s : Settings) : List (String × String) :=
  (s.entries.filter fun e => e.1 != .appPath).map
    fun e => (launchVariable e.1.name, e.2)

/-- The variables for the options that are set (`as_launch_env`). -/
def launchEnv (s : Settings) : Dictionary :=
  Dictionary.ofPairs s.launchPairs

/-- The variables that overrides add or replace. -/
def overridePairs (overrides : Overrides) : List (String × String) :=
  (overrides.entries.filter
      fun e => Text.lower e.1 != OptionName.appPath.name).map
    fun e => (launchVariable (Text.lower e.1), e.2)

/-- The variables for the options that are set, with overrides on top
(`launch_env`). -/
def launchEnvWith (s : Settings) (overrides : Overrides) : Dictionary :=
  s.launchEnv.insertAll (overridePairs overrides)

end PairingHarness.Settings
