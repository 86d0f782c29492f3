import Periscope.Pattern.Basic
import Periscope.Text.Alphabetic
import Periscope.Text.Cased
import Periscope.Text.Category
import Periscope.Text.Script

/-!
# Modes and named classes

The switches that a pattern's text can set for a part of itself, what they make of sets, anchors and
repetitions, and the classes that can be named.
-/

namespace Periscope.Pattern

open Text

/-- The switches in force at a place of a pattern's text. -/
structure Modes where
  ignoreCase : Bool := false
  /-- Line anchors hold at the line ends inside the text. -/
  multiLine : Bool := false
  /-- The dot also stands for a line feed. -/
  dotAll : Bool := false
  /-- Repetitions are lazy unless marked greedy. -/
  swapGreed : Bool := false
  /-- A carriage return also ends a line. -/
  crlf : Bool := false
  /-- Classes and letter case range over all characters, and not over ASCII alone. -/
  unicode : Bool := true
  /-- Blanks and comments between the parts are passed over. -/
  verbose : Bool := false

/-- The ASCII characters. -/
def ascii : CharSet := .range '\x00' '\x7F'

/-- The ASCII word characters. -/
def asciiWord : CharSet :=
  .unions [.range '0' '9', .range 'A' 'Z', .single '_', .range 'a' 'z']

namespace Modes

/-- The mode with one letter switched on or off, if the letter names a mode. -/
def switch? (m : Modes) (letter : Char) (on : Bool) : Option Modes :=
  match letter with
  | 'i' => some { m with ignoreCase := on }
  | 'm' => some { m with multiLine := on }
  | 's' => some { m with dotAll := on }
  | 'U' => some { m with swapGreed := on }
  | 'u' => some { m with unicode := on }
  | 'R' => some { m with crlf := on }
  | 'x' => some { m with verbose := on }
  | _ => none

/-- Closes a set under letter case where case is ignored. -/
def close (m : Modes) (s : CharSet) : CharSet :=
  if !m.ignoreCase then s
  else if m.unicode then s.fold
  else .inter s.fold ascii

/-- The set that a class denotes, or its complement. Over ASCII alone a complement would hold bytes that
are no characters, so there it is refused. -/
def finish (m : Modes) (negated : Bool) (s : CharSet) : Option CharSet :=
  if !negated then some (m.close s)
  else if m.unicode then some (.compl (m.close s))
  else none

/-- The dot. -/
def dot (m : Modes) : Option CharSet :=
  if !m.unicode then none
  else if m.dotAll then some .any
  else if m.crlf then some (.compl (.ofList ['\n', '\r']))
  else some (.compl (.single '\n'))

/-- The caret. -/
def caret (m : Modes) : Assertion :=
  if !m.multiLine then .textStart else if m.crlf then .lineStartCrlf else .lineStart

/-- The dollar sign. -/
def dollar (m : Modes) : Assertion :=
  if !m.multiLine then .textEnd else if m.crlf then .lineEndCrlf else .lineEnd

/-- An edge of a word over the alphabet of the mode. -/
def edge (m : Modes) (kind : WordEdge) : Assertion :=
  .edge kind (if m.unicode then .word else asciiWord)

/-- The classes `d`, `s` and `w`; in capitals, their complements. -/
def letterClass (m : Modes) (letter : Char) : Option CharSet :=
  let set : Option CharSet :=
    match letter.toLower with
    | 'd' => some (if m.unicode then .digit else .range '0' '9')
    | 's' => some (if m.unicode then .blank else .ofList ['\t', '\n', '\x0B', '\x0C', '\r', ' '])
    | 'w' => some (if m.unicode then .word else asciiWord)
    | _ => none
  if !letter.isUpper then set
  else if m.unicode then set.map .compl
  else none

end Modes

/-- The classes that may be named between `[:` and `:]`. -/
def asciiClass? (name : String) : Option CharSet :=
  match name with
  | "alnum" => some (.unions [.range '0' '9', .range 'A' 'Z', .range 'a' 'z'])
  | "alpha" => some (.unions [.range 'A' 'Z', .range 'a' 'z'])
  | "ascii" => some ascii
  | "blank" => some (.ofList ['\t', ' '])
  | "cntrl" => some (.unions [.range '\x00' '\x1F', .single '\x7F'])
  | "digit" => some (.range '0' '9')
  | "graph" => some (.range '!' '~')
  | "lower" => some (.range 'a' 'z')
  | "print" => some (.range ' ' '~')
  | "punct" =>
    some (.unions [.range '!' '/', .range ':' '@', .range '[' '\x60', .range '\x7B' '~'])
  | "space" => some (.ofList ['\t', '\n', '\x0B', '\x0C', '\r', ' '])
  | "upper" => some (.range 'A' 'Z')
  | "word" => some asciiWord
  | "xdigit" => some (.unions [.range '0' '9', .range 'A' 'F', .range 'a' 'f'])
  | _ => none

/-- The name of a property without what its spelling may vary in: letter case, spaces, hyphens,
underscores and a leading `is`. What is left of `isc` keeps its prefix. -/
def looseName (name : List Char) : String :=
  let plain (s : List Char) : List Char :=
    (s.filter fun c => c.val < 0x80 && c != ' ' && c != '-' && c != '_').map Char.toLower
  if (name.take 2).map Char.toLower == ['i', 's'] then
    match plain (name.drop 2) with
    | ['c'] => "isc"
    | tail => String.ofList tail
  else String.ofList (plain name)

/-- The property of a character that holds or does not hold, by its name, as far as there is a table of it. -/
def binaryProperty? (name : String) : Option CharSet :=
  match name with
  | "alphabetic" | "alpha" =>
    some (.union (.unions [.range 'A' 'Z', .range 'a' 'z']) (.listed alphabeticRanges))
  | "lowercase" | "lower" => some (.union (.range 'a' 'z') (.listed lowercaseRanges))
  | "uppercase" | "upper" => some (.union (.range 'A' 'Z') (.listed uppercaseRanges))
  | "whitespace" | "wspace" | "space" => some .blank
  | "cased" => some (.union (.unions [.range 'A' 'Z', .range 'a' 'z']) (.listed casedRanges))
  | "caseignorable" | "ci" => some (.listed caseIgnorableRanges)
  | "asciihexdigit" | "ahex" => asciiClass? "xdigit"
  | "joincontrol" | "joinc" => some (.range '\u200C' '\u200D')
  | _ => none

/-- The general category or pseudo category with the given name. -/
def namedCategory? (name : String) : Option CharSet :=
  match name with
  | "any" => some .any
  | "ascii" => some ascii
  | "assigned" => (category? "cn").map fun ranges => .compl (.listed ranges)
  | _ => (category? name).map .listed

/-- The class that a bare property name denotes. -/
def namedClass? (name : List Char) : Option CharSet :=
  let n := looseName name
  (binaryProperty? n).or ((namedCategory? n).or ((script? n).map .listed))

/-- The class that a property with a value denotes. The extensions of a script are not listed apart from it. -/
def valuedClass? (property value : List Char) : Option CharSet :=
  match looseName property with
  | "generalcategory" | "gc" => namedCategory? (looseName value)
  | "script" | "sc" | "scriptextensions" | "scx" => (script? (looseName value)).map .listed
  | _ => none

end Periscope.Pattern
