/-!
# Blank characters

The white space of Unicode, and texts with the blanks at both ends taken off.
-/

namespace Agenda.Text

/-- The characters that Unicode counts as white space. -/
def isBlank (c : Char) : Bool :=
  let n := c.toNat
  (9 ≤ n && n ≤ 13) || n == 0x20 || n == 0x85 || n == 0xA0 || n == 0x1680 || (0x2000 ≤ n && n ≤ 0x200A) ||
    n == 0x2028 || n == 0x2029 || n == 0x202F || n == 0x205F || n == 0x3000

/-- The blanks within a line: space and tab. -/
def isSpaceOrTab (c : Char) : Bool := c = ' ' || c = '\t'

/-- The characters without the blanks at their start and at their end. -/
def trimmed (cs : List Char) : List Char :=
  ((cs.dropWhile isBlank).reverse.dropWhile isBlank).reverse

/-- The text without the blanks at its start and at its end. -/
def trim (s : String) : String :=
  String.ofList (trimmed s.toList)

/-- A text of blanks alone, the empty text among them. -/
def isBlankText (s : String) : Bool :=
  s.toList.all isBlank

end Agenda.Text
