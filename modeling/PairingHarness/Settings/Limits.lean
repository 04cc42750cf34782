/-
The options that are numbers.

A number is read from the raw text with the blanks around it taken off. The
port fits sixteen bits and may be zero; the ceilings and the lifetime must
be above zero. The failure names the option and shows the raw text, blanks
included.
-/
import PairingHarness.Decimal
import PairingHarness.Settings.Basic

namespace PairingHarness.Settings

/-- The number in a raw value, at most `bound`. -/
def number (option : OptionName) (bound : Nat) (raw : String) :
    Except Failure Nat :=
  match Decimal.read bound (Text.trimmed raw.toList) with
  | .ok n => .ok n
  | .error fault => .error (.invalidOption option.name raw fault.message)

/-- The number in a raw value, above zero and at most `bound`. -/
def positive (option : OptionName) (bound : Nat) (raw : String) :
    Except Failure Nat :=
  match number option bound raw with
  | .ok 0 => .error (.invalidOption option.name raw "must be greater than zero")
  | r => r

def portNumber (s : Settings) : Except Failure Nat :=
  number .port Decimal.maxWord16 s.port

def exchangeLimit (s : Settings) : Except Failure Nat :=
  positive .maxExchanges Decimal.maxWord32 s.maxExchanges

def dataLimit (s : Settings) : Except Failure Nat :=
  positive .maxData Decimal.maxWord64 s.maxData

def lifetime (s : Settings) : Except Failure (Option Nat) :=
  match s.timeout with
  | none => .ok none
  | some raw => (positive .timeout Decimal.maxWord64 raw).map some

end PairingHarness.Settings
