/-!
# Tables of characters

Two shapes of table: ascending ranges of code points for a property of characters, and arithmetic runs
for a mapping of letter case.
-/

namespace Periscope.Text

/-- Inclusive ranges of code points. -/
abbrev Ranges := List (Nat × Nat)

/-- Whether one of the ranges holds `n`. -/
def Ranges.contains (ranges : Ranges) (n : Nat) : Bool :=
  ranges.any fun range => range.1 ≤ n && n ≤ range.2

/-- The value of a hexadecimal digit; other characters count as zero. -/
def hexDigitValue (c : Char) : Nat :=
  if c.isDigit then c.toNat - 0x30
  else if 'a' ≤ c && c ≤ 'f' then c.toNat - 0x57
  else if 'A' ≤ c && c ≤ 'F' then c.toNat - 0x37
  else 0

/-- The number that a run of hexadecimal digits denotes. -/
def hexValue (digits : List Char) : Nat :=
  digits.foldl (fun n c => 16 * n + hexDigitValue c) 0

/-- One range, written as `41-5A` or `AA`. -/
def rangeOfHex (token : List Char) : Nat × Nat :=
  let first := token.takeWhile (· != '-')
  let last := token.drop (first.length + 1)
  (hexValue first, hexValue (if last.isEmpty then first else last))

/-- The words between spaces and line ends. -/
def blankSeparated (current : List Char) : List Char → List (List Char)
  | [] => if current.isEmpty then [] else [current.reverse]
  | c :: rest =>
    if c == ' ' || c == '\n' then
      if current.isEmpty then blankSeparated [] rest
      else current.reverse :: blankSeparated [] rest
    else blankSeparated (c :: current) rest

/-- Reads ranges that are separated by spaces and line ends. -/
def Ranges.ofHex (text : String) : Ranges := (blankSeparated [] text.toList).map rangeOfHex

/-- The code points `first`, `first + step`, … up to `last`, mapped in order to `image`, `image + step`, …. -/
structure CaseRun where
  first : Nat
  last : Nat
  step : Nat
  image : Nat

/-- The image of `n`, if the run holds it. -/
def CaseRun.image? (run : CaseRun) (n : Nat) : Option Nat :=
  if run.first ≤ n && n ≤ run.last && (n - run.first) % run.step == 0 then
    some (run.image + (n - run.first))
  else none

/-- The code point that the run maps to `n`. -/
def CaseRun.preimage? (run : CaseRun) (n : Nat) : Option Nat :=
  let width := run.last - run.first
  if run.image ≤ n && n ≤ run.image + width && (n - run.image) % run.step == 0 then
    some (run.first + (n - run.image))
  else none

/-- A mapping of letter case, written as runs. -/
abbrev CaseMap := List CaseRun

/-- The image of `n`, if the mapping changes it. -/
def CaseMap.image? (map : CaseMap) (n : Nat) : Option Nat :=
  map.findSome? (·.image? n)

/-- The code points that the mapping sends to `n`. -/
def CaseMap.preimages (map : CaseMap) (n : Nat) : List Nat :=
  map.filterMap (·.preimage? n)

end Periscope.Text
