import Periscope.Text.Blank
import Periscope.Text.WordChar
import Periscope.Text.Numeric
import Periscope.Text.Fold

/-!
# Character sets

The sets of characters that a pattern can ask for, built from ranges and named classes by the set
operations and by closing a set under letter case.
-/

namespace Periscope

open Text

/-- A set of characters. -/
inductive CharSet where
  | range (first last : Char)
  | word
  | blank
  | digit
  /-- The characters in a table of ranges. -/
  | listed (ranges : Ranges)
  | union (a b : CharSet)
  | inter (a b : CharSet)
  | compl (a : CharSet)
  /-- The characters that agree up to case with one of `a`. -/
  | folded (a : CharSet)
  deriving DecidableEq

namespace CharSet

/-- Membership. -/
def contains : CharSet → Char → Bool
  | .range first last, c => first ≤ c && c ≤ last
  | .word, c => isWord c
  | .blank, c => isBlank c
  | .digit, c => isDecimalDigit c
  | .listed ranges, c => ranges.contains c.toNat
  | .union a b, c => a.contains c || b.contains c
  | .inter a b, c => a.contains c && b.contains c
  | .compl a, c => !a.contains c
  | .folded a, c => a.contains c || (foldOrbit c).any a.contains

/-- The set of one character. -/
def single (c : Char) : CharSet := .range c c

/-- No character. -/
def none : CharSet := .listed []

/-- Every character. -/
def any : CharSet := .compl none

/-- The characters listed. -/
def ofList : List Char → CharSet
  | [] => none
  | [c] => single c
  | c :: rest => .union (single c) (ofList rest)

/-- The union of the sets listed. -/
def unions : List CharSet → CharSet
  | [] => none
  | [a] => a
  | a :: rest => .union a (unions rest)

/-- The characters of `a` that are not in `b`. -/
def diff (a b : CharSet) : CharSet := .inter a (.compl b)

/-- The characters in exactly one of the two sets. -/
def symmDiff (a b : CharSet) : CharSet := .union (diff a b) (diff b a)

/-- Closes a set under letter case. The named classes and the ASCII characters without case are closed
already, and a single letter is written out with its partners. -/
def fold : CharSet → CharSet
  | .word => .word
  | .blank => .blank
  | .digit => .digit
  | .union a b => .union a.fold b.fold
  | .range first last =>
    if first == last then ofList (foldOrbit first)
    else if last.val < 0x80 && !(first ≤ 'z' && 'A' ≤ last) then .range first last
    else .folded (.range first last)
  | a => .folded a

end CharSet

end Periscope
