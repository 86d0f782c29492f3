import Periscope.Text.Ranges

/-!
# Blank characters

The characters with the Unicode property White_Space: the class that the escape `\s` names, and what
trimming removes.
-/

namespace Periscope.Text

/-- The blank characters beyond ASCII. -/
def blankRanges : Ranges :=
  [(0x85, 0x85), (0xA0, 0xA0), (0x1680, 0x1680), (0x2000, 0x200A), (0x2028, 0x2029),
   (0x202F, 0x202F), (0x205F, 0x205F), (0x3000, 0x3000)]

/-- A blank character: tab to carriage return, space, and the blanks of `blankRanges`. -/
def isBlank (c : Char) : Bool :=
  if c.val < 0x80 then c == ' ' || (0x09 ≤ c.val && c.val ≤ 0x0D)
  else blankRanges.contains c.toNat

/-- The text without the blanks at its two ends. -/
def trimBlank (s : List Char) : List Char :=
  ((s.dropWhile isBlank).reverse.dropWhile isBlank).reverse

end Periscope.Text
