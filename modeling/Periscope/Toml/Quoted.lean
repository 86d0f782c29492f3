import Periscope.Text.Ranges

/-!
# Quoted texts

Basic texts stand between double quotes and know escapes; literal texts stand between single quotes and mean
what they say. Three quotes open a text that may run over several lines. Each reader starts behind the
opening quotes and gives the text and what stands behind the closing ones.
-/

namespace Periscope.Toml

open Text

/-- Whether a character may stand in a text or a comment: all but the controls, and the tab. -/
def isPrintableHere (c : Char) : Bool := c == '\t' || (0x20 ≤ c.val && c.val != 0x7F)

/-- A hexadecimal digit. -/
def isHex (c : Char) : Bool := c.isDigit || ('a' ≤ c && c ≤ 'f') || ('A' ≤ c && c ≤ 'F')

/-- The character with a number written in hexadecimal digits, if there is one. -/
def charOfHex? (digits : List Char) : Option Char :=
  let n := hexValue digits
  if digits.all isHex && (n < 0xD800 || (0xE000 ≤ n && n < 0x110000)) then some (Char.ofNat n)
  else none

/-- The character that an escape stands for, given the text behind the backslash. -/
def escape : List Char → Option (Char × List Char)
  | 'b' :: rest => some ('\x08', rest)
  | 't' :: rest => some ('\t', rest)
  | 'n' :: rest => some ('\n', rest)
  | 'f' :: rest => some ('\x0C', rest)
  | 'r' :: rest => some ('\r', rest)
  | '"' :: rest => some ('"', rest)
  | '\\' :: rest => some ('\\', rest)
  | 'u' :: rest =>
    if rest.length < 4 then none else (charOfHex? (rest.take 4)).map (·, rest.drop 4)
  | 'U' :: rest =>
    if rest.length < 8 then none else (charOfHex? (rest.take 8)).map (·, rest.drop 8)
  | _ => none

/-- The text behind a line end, if there is one at the front. -/
def lineEnd? : List Char → Option (List Char)
  | '\n' :: rest => some rest
  | '\r' :: '\n' :: rest => some rest
  | _ => none

/-- Passes over blanks, tabs and line ends. -/
def skipBlankLines : List Char → List Char
  | ' ' :: rest => skipBlankLines rest
  | '\t' :: rest => skipBlankLines rest
  | '\n' :: rest => skipBlankLines rest
  | '\r' :: '\n' :: rest => skipBlankLines rest
  | s => s

/-- A basic text on one line. `bound` is a bound on the text. -/
def basicText : Nat → List Char → Option (List Char × List Char)
  | 0, _ => none
  | bound + 1, s =>
    match s with
    | '"' :: rest => some ([], rest)
    | '\\' :: rest => do
      let (c, rest) ← escape rest
      let (found, rest) ← basicText bound rest
      some (c :: found, rest)
    | c :: rest =>
      if isPrintableHere c then (basicText bound rest).map fun (found, rest) => (c :: found, rest)
      else none
    | [] => none

/-- A literal text on one line. -/
def literalText (s : List Char) : Option (List Char × List Char) :=
  match s.dropWhile fun c => isPrintableHere c && c != '\'' with
  | '\'' :: rest => some (s.takeWhile fun c => isPrintableHere c && c != '\'', rest)
  | _ => none

/-- A text over several lines between triples of a quote. Up to two quotes may stand before the closing
ones, and a line end counts as a line feed. In a basic text, a backslash at the end of a line takes the line
end and all blanks behind it away. -/
def longText (quote : Char) : Nat → List Char → Option (List Char × List Char)
  | 0, _ => none
  | bound + 1, s =>
    match s with
    | [] => none
    | c :: rest =>
      if c == quote then
        let run := s.takeWhile (· == quote)
        let behind := s.dropWhile (· == quote)
        if run.length < 3 then
          (longText quote bound behind).map fun (found, rest) => (run ++ found, rest)
        else if run.length ≤ 5 then some (run.drop 3, behind)
        else none
      else if c == '\\' && quote == '"' then
        match lineEnd? (rest.dropWhile fun c => c == ' ' || c == '\t') with
        | some rest => longText quote bound (skipBlankLines rest)
        | none => do
          let (c, rest) ← escape rest
          let (found, rest) ← longText quote bound rest
          some (c :: found, rest)
      else
        match lineEnd? s with
        | some rest => (longText quote bound rest).map fun (found, rest) => ('\n' :: found, rest)
        | none =>
          if isPrintableHere c then
            (longText quote bound rest).map fun (found, rest) => (c :: found, rest)
          else none

/-- A text of any kind. A line end right behind three opening quotes does not count. -/
def quotedText (s : List Char) : Option (String × List Char) :=
  let long (quote : Char) (rest : List Char) : Option (String × List Char) :=
    let rest := (lineEnd? rest).getD rest
    (longText quote (rest.length + 1) rest).map fun (found, rest) => (String.ofList found, rest)
  match s with
  | '"' :: '"' :: '"' :: rest => long '"' rest
  | '\'' :: '\'' :: '\'' :: rest => long '\'' rest
  | '"' :: rest =>
    (basicText (rest.length + 1) rest).map fun (found, rest) => (String.ofList found, rest)
  | '\'' :: rest => (literalText rest).map fun (found, rest) => (String.ofList found, rest)
  | _ => none

end Periscope.Toml
