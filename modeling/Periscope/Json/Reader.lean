import Periscope.Json.Basic
import Periscope.Text.Ranges

/-!
# Reading JSON

The values that a text denotes. Members of an object are kept as they are written, so that a repeated key
can still be seen; `Json.ofText?` gives the normal form. Containers nest at most 127 deep. A lax reader takes
lone surrogates and numbers out of range too: it serves to pass over a value that nobody looks at.
-/

namespace Periscope.Json

namespace Reader

open Text

/-- Passes over spaces, tabs and line ends. -/
def skipBlank : List Char → List Char
  | [] => []
  | c :: rest =>
    if c == ' ' || c == '\n' || c == '\t' || c == '\r' then skipBlank rest else c :: rest

/-- A hexadecimal digit. -/
def isHex (c : Char) : Bool := c.isDigit || ('a' ≤ c && c ≤ 'f') || ('A' ≤ c && c ≤ 'F')

/-- What stands at one place between quotes: a character, or a code unit of sixteen bits. -/
inductive Piece where
  | char (c : Char)
  | unit (n : Nat)

/-- The character that a short escape stands for. -/
def shortEscape? (c : Char) : Option Char :=
  match c with
  | '"' => some '"'
  | '\\' => some '\\'
  | '/' => some '/'
  | 'b' => some '\x08'
  | 'f' => some '\x0C'
  | 'n' => some '\n'
  | 'r' => some '\r'
  | 't' => some '\t'
  | _ => none

/-- The pieces of a string up to its closing quote. -/
def pieces : List Char → Option (List Piece × List Char)
  | [] => none
  | '"' :: rest => some ([], rest)
  | '\\' :: 'u' :: a :: b :: c :: d :: rest =>
    if [a, b, c, d].all isHex then
      (pieces rest).map fun (found, rest) => (.unit (hexValue [a, b, c, d]) :: found, rest)
    else none
  | '\\' :: e :: rest =>
    match shortEscape? e with
    | some c => (pieces rest).map fun (found, rest) => (.char c :: found, rest)
    | none => none
  | c :: rest =>
    if c.val < 0x20 || c == '\\' then none
    else (pieces rest).map fun (found, rest) => (.char c :: found, rest)

/-- The text of the pieces; a surrogate without its partner is refused. -/
def joinUnits : List Piece → Option (List Char)
  | [] => some []
  | .char c :: rest => (joinUnits rest).map (c :: ·)
  | .unit n :: rest =>
    if n < 0xD800 || 0xDFFF < n then (joinUnits rest).map (Char.ofNat n :: ·)
    else
      match rest with
      | .unit low :: rest =>
        if n < 0xDC00 && 0xDC00 ≤ low && low ≤ 0xDFFF then
          (joinUnits rest).map
            (Char.ofNat (0x10000 + (n - 0xD800) * 0x400 + (low - 0xDC00)) :: ·)
        else none
      | _ => none

/-- A string, given the text behind its opening quote. -/
def string (isStrict : Bool) (s : List Char) : Option (String × List Char) := do
  let (found, rest) ← pieces s
  match joinUnits found with
  | some text => some (String.ofList text, rest)
  | none => if isStrict then none else some ("", rest)

/-- The digits at the front. -/
def digits (s : List Char) : List Char × List Char :=
  (s.takeWhile Char.isDigit, s.dropWhile Char.isDigit)

/-- The digits of a fraction, if a point begins one. -/
def fraction : List Char → Option (Option (List Char) × List Char)
  | '.' :: rest =>
    let (found, rest) := digits rest
    if found.isEmpty then none else some (some found, rest)
  | s => some (none, s)

/-- Whether an exponent is negative, and its digits, given the text behind its letter. -/
def exponentDigits (s : List Char) : Option ((Bool × List Char) × List Char) :=
  let down := s.head? == some '-'
  let (found, rest) := digits (if down || s.head? == some '+' then s.tail else s)
  if found.isEmpty then none else some ((down, found), rest)

/-- An exponent, if a letter begins one. -/
def exponent : List Char → Option (Option (Bool × List Char) × List Char)
  | 'e' :: rest | 'E' :: rest => (exponentDigits rest).map fun (found, rest) => (some found, rest)
  | s => some (none, s)

/-- A number in its written form. -/
def written (s : List Char) : Option (Number.Written × List Char) := do
  let negative := s.head? == some '-'
  let (whole, rest) := digits (if negative then s.tail else s)
  if whole.isEmpty || (whole.head? == some '0' && whole != ['0']) then none
  else
    let (fraction, rest) ← fraction rest
    let (exponent, rest) ← exponent rest
    some (⟨negative, whole, fraction, exponent⟩, rest)

/-- A number that is in range. -/
def number (isStrict : Bool) (s : List Char) : Option (Number × List Char) := do
  let (w, rest) ← written s
  match Number.ofWritten? w with
  | some n => some (n, rest)
  | none => if isStrict then none else some (.int 0, rest)

/-- The text behind a word, if it begins with the word. -/
def word (expected : List Char) (s : List Char) : Option (List Char) :=
  if expected.isPrefixOf s then some (s.drop expected.length) else none

mutual

/-- A value, after blanks. `bound` is a bound on the text and `depth` the number of containers that may
still be opened. -/
def value (isStrict : Bool) (depth : Nat) : Nat → List Char → Option (Json × List Char)
  | 0, _ => none
  | bound + 1, s =>
    match skipBlank s with
    | [] => none
    | 'n' :: rest => (word "ull".toList rest).map (.null, ·)
    | 't' :: rest => (word "rue".toList rest).map (.bool true, ·)
    | 'f' :: rest => (word "alse".toList rest).map (.bool false, ·)
    | '"' :: rest => (string isStrict rest).map fun (s, rest) => (.str s, rest)
    | '[' :: rest =>
      match depth with
      | 0 => none
      | depth + 1 =>
        match skipBlank rest with
        | ']' :: rest => some (.arr [], rest)
        | rest => (items isStrict depth bound rest).map fun (found, rest) => (.arr found, rest)
    | '\x7B' :: rest =>
      match depth with
      | 0 => none
      | depth + 1 =>
        match skipBlank rest with
        | '\x7D' :: rest => some (.obj [], rest)
        | rest => (members isStrict depth bound rest).map fun (found, rest) => (.obj found, rest)
    | s => (number isStrict s).map fun (n, rest) => (.num n, rest)

/-- The items of an array, one at least, up to its closing bracket. -/
def items (isStrict : Bool) (depth : Nat) : Nat → List Char → Option (List Json × List Char)
  | 0, _ => none
  | bound + 1, s => do
    let (v, rest) ← value isStrict depth bound s
    match skipBlank rest with
    | ',' :: rest =>
      let (found, rest) ← items isStrict depth bound rest
      some (v :: found, rest)
    | ']' :: rest => some ([v], rest)
    | _ => none

/-- The members of an object, one at least, up to its closing brace. -/
def members (isStrict : Bool) (depth : Nat) : Nat → List Char → Option (List (String × Json) × List Char)
  | 0, _ => none
  | bound + 1, s =>
    match skipBlank s with
    | '"' :: rest => do
      let (key, rest) ← string isStrict rest
      match skipBlank rest with
      | ':' :: rest =>
        let (v, rest) ← value isStrict depth bound rest
        match skipBlank rest with
        | ',' :: rest =>
          let (found, rest) ← members isStrict depth bound rest
          some ((key, v) :: found, rest)
        | '\x7D' :: rest => some ([(key, v)], rest)
        | _ => none
      | _ => none
    | _ => none

end

/-- The number of containers that may nest. -/
def maxDepth : Nat := 127

/-- A whole text as one value, its members as they are written. -/
def document (s : List Char) : Option Json :=
  match value true maxDepth (s.length + 1) s with
  | some (v, rest) => if (skipBlank rest).isEmpty then some v else none
  | none => none

/-- The text behind a value that nobody looks at. -/
def skipValue (s : List Char) : Option (List Char) :=
  (value false s.length (s.length + 1) s).map Prod.snd

end Reader

/-- The value that a text denotes, its members as they are written. -/
def written? (text : String) : Option Json := Reader.document text.toList

/-- The value that a text denotes, in normal form. -/
def ofText? (text : String) : Option Json := (written? text).map normalize

end Periscope.Json
