/-
Letter case, ASCII only.

Variable names and option names differ in case only; letters outside ASCII
are never folded, so that a look-alike such as the dotless i is not taken
for an ASCII letter.
-/

namespace PairingHarness.Text

/-- The text with its ASCII capitals made small. -/
def lower (s : String) : String :=
  String.ofList (s.toList.map Char.toLower)

/-- The text with its small ASCII letters made capital. -/
def upper (s : String) : String :=
  String.ofList (s.toList.map Char.toUpper)

end PairingHarness.Text
