import Periscope.Toml.Quoted
import Periscope.Toml.Scalar
import Periscope.Toml.Table

/-!
# Reading configuration files

A file is a list of lines, each with a header or an assignment, and with comments anywhere at a line's end.
`Toml.ofText?` gives the table that a text denotes.
-/

namespace Periscope.Toml

/-- Containers nest less deep than this, and paths are shorter. -/
def nestingLimit : Nat := 80

/-! ## Between the values -/

/-- Passes over blanks and tabs. -/
def skipBlank (s : List Char) : List Char := s.dropWhile fun c => c == ' ' || c == '\t'

/-- The text behind a comment, if there is one; it ends before the line does. -/
def skipComment : List Char → List Char
  | '#' :: rest => rest.dropWhile isPrintableHere
  | s => s

/-- The text behind the end of a line, before which blanks and a comment may stand. -/
def endLine (s : List Char) : Option (List Char) :=
  match skipComment (skipBlank s) with
  | [] => some []
  | s => lineEnd? s

/-- Passes over blanks, comments and line ends. `bound` is a bound on the number of lines. -/
def skipLines : Nat → List Char → List Char
  | 0, s => s
  | bound + 1, s =>
    let s := skipBlank s
    match lineEnd? (skipComment s) with
    | some rest => skipLines bound rest
    | none => s

/-! ## Keys -/

/-- Whether a character may stand in a key without quotes. -/
def isKeyPart (c : Char) : Bool := c.isAlphanum || c == '_' || c == '-'

/-- A key without dots. -/
def simpleKey (s : List Char) : Option (String × List Char) :=
  match s with
  | '"' :: rest =>
    (basicText (rest.length + 1) rest).map fun (found, rest) => (String.ofList found, rest)
  | '\'' :: rest => (literalText rest).map fun (found, rest) => (String.ofList found, rest)
  | s =>
    let found := s.takeWhile isKeyPart
    if found.isEmpty then none else some (String.ofList found, s.dropWhile isKeyPart)

/-- The keys of a path, with dots between them and blanks around them. -/
def keys : Nat → List Char → Option (List String × List Char)
  | 0, _ => none
  | bound + 1, s => do
    let (key, rest) ← simpleKey (skipBlank s)
    match skipBlank rest with
    | '.' :: rest =>
      let (found, rest) ← keys bound rest
      some (key :: found, rest)
    | rest => some ([key], rest)

/-- A path and the key at its end. -/
def path (s : List Char) : Option (List String × String × List Char) := do
  let (found, rest) ← keys nestingLimit s
  if found.length < nestingLimit then some (found.dropLast, ← found.getLast?, rest) else none

/-! ## Values -/

/-- The text behind a character that has to be at the front. -/
def expect (c : Char) : List Char → Option (List Char)
  | d :: rest => if c == d then some rest else none
  | [] => none

mutual

/-- A value. `bound` is a bound on the text and `depth` the number of containers that may still be
opened. -/
def value (depth : Nat) : Nat → List Char → Option (Value × List Char)
  | 0, _ => none
  | bound + 1, s =>
    match depth, s with
    | depth + 1, '[' :: rest =>
      (items depth bound rest).map fun (found, rest) => (.array found, rest)
    | depth + 1, '\x7B' :: rest => do
      match skipBlank rest with
      | '\x7D' :: rest => some (.table [], rest)
      | rest =>
        let (found, rest) ← pairs depth bound rest
        let entries ← Entries.build [] [] found
        some (.table (entriesToValues entries), rest)
    | _, '"' :: _ => (quotedText s).map fun (found, rest) => (.text found, rest)
    | _, '\'' :: _ => (quotedText s).map fun (found, rest) => (.text found, rest)
    | _, s => unquoted s

/-- The items of an array up to its closing bracket; a comma may stand behind the last one. -/
def items (depth : Nat) : Nat → List Char → Option (List Value × List Char)
  | 0, _ => none
  | bound + 1, s =>
    match skipLines s.length s with
    | ']' :: rest => some ([], rest)
    | s => do
      let (v, rest) ← value depth bound s
      match skipLines rest.length rest with
      | ',' :: rest =>
        let (found, rest) ← items depth bound rest
        some (v :: found, rest)
      | ']' :: rest => some ([v], rest)
      | _ => none

/-- The assignments of an inline table, one at least, up to its closing brace. -/
def pairs (depth : Nat) : Nat → List Char → Option (List Statement × List Char)
  | 0, _ => none
  | bound + 1, s => do
    let (way, key, rest) ← path s
    let rest ← expect '=' rest
    let (v, rest) ← value depth bound (skipBlank rest)
    match skipBlank rest with
    | ',' :: rest =>
      let (found, rest) ← pairs depth bound rest
      some (.assign way key v :: found, rest)
    | '\x7D' :: rest => some ([.assign way key v], rest)
    | _ => none

end

/-! ## Files -/

/-- A header or an assignment. -/
def statement (s : List Char) : Option (Statement × List Char) :=
  match s with
  | '[' :: '[' :: rest => do
    let (way, key, rest) ← path rest
    some (.element way key, ← expect ']' (← expect ']' rest))
  | '[' :: rest => do
    let (way, key, rest) ← path rest
    some (.header way key, ← expect ']' rest)
  | s => do
    let (way, key, rest) ← path s
    let rest ← expect '=' rest
    let (v, rest) ← value (nestingLimit - 1) (2 * rest.length + 2) (skipBlank rest)
    some (.assign way key v, rest)

/-- The statements of a file. `bound` is a bound on the number of lines. -/
def statements : Nat → List Char → Option (List Statement)
  | 0, _ => none
  | bound + 1, s =>
    match skipLines s.length s with
    | [] => some []
    | '#' :: rest => if (skipComment ('#' :: rest)).isEmpty then some [] else none
    | s => do
      let (first, rest) ← statement s
      let others ← statements bound (← endLine rest)
      some (first :: others)

/-- The table that a text denotes. A byte order mark at the front does not count. -/
def ofText? (text : String) : Option Value := do
  let s :=
    match text.toList with
    | '\uFEFF' :: rest => rest
    | s => s
  let entries ← Entries.build [] [] (← statements (s.length + 1) s)
  some (.table (entriesToValues entries))

end Periscope.Toml
