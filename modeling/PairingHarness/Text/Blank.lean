/-
Blank characters and trimming.

A character is blank when Unicode calls it white space. Options, numbers and
scenario names are read with the blanks around them taken off, and an
optional option that holds blanks only counts as not set.
-/

namespace PairingHarness.Text

-- ================================================== the blank characters

/-- White space in the sense of Unicode: the controls from tab to carriage
return, the space, the next-line control and the separators outside ASCII.
-/
def isBlank (c : Char) : Bool :=
  let n := c.toNat
  (0x09 ≤ n && n ≤ 0x0d) || n == 0x20 || n == 0x85 || n == 0xa0 || n == 0x1680
    || (0x2000 ≤ n && n ≤ 0x200a) || n == 0x2028 || n == 0x2029 || n == 0x202f
    || n == 0x205f || n == 0x3000

-- ============================================================== trimming

/-- The characters without the blanks at their end. -/
def dropBlankEnd (cs : List Char) : List Char :=
  (cs.reverse.dropWhile isBlank).reverse

/-- The characters without the blanks on either side. -/
def trimmed (cs : List Char) : List Char :=
  dropBlankEnd (cs.dropWhile isBlank)

/-- The text without the blanks on either side. -/
def trim (s : String) : String :=
  String.ofList (trimmed s.toList)

/-- Whether the text is empty or holds blanks only. -/
def isBlankText (s : String) : Bool :=
  s.toList.all isBlank

end PairingHarness.Text
