import Periscope.Pattern.Modes

/-!
# Reading patterns

The textual form of patterns: literals, classes, groups, alternatives, repetitions, anchors and modes.
`Pattern.ofText?` answers `none` for a text that is not a pattern, and for one whose compiled form would
be too large. Of the properties of characters it knows the general categories, the scripts, and those of
`binaryProperty?`; a text that names another one is none of its patterns. Where more is known of the
properties, another reader can stand in its place (`Redactor.configured`).
-/

namespace Periscope.Pattern

open Text

namespace Reader

/-- Passes over blanks and comments where the mode asks for it. -/
def skip (m : Modes) (s : List Char) : List Char :=
  if m.verbose then skipFrom false s else s
where
  skipFrom (comment : Bool) : List Char → List Char
    | [] => []
    | c :: rest =>
      if comment then skipFrom (c != '\n') rest
      else if isBlank c then skipFrom false rest
      else if c == '#' then skipFrom true rest
      else c :: rest

/-- The rest behind the first character, passing over what the mode ignores; `none` at the end. -/
def bump (m : Modes) (s : List Char) : Option (List Char) :=
  match skip m s.tail with
  | [] => none
  | rest => some rest

/-- A hexadecimal digit. -/
def isHex (c : Char) : Bool := c.isDigit || ('a' ≤ c && c ≤ 'f') || ('A' ≤ c && c ≤ 'F')

/-- The character with the given code point. -/
def scalar? (n : Nat) : Option Char := if n.isValidChar then some (Char.ofNat n) else none

/-- What one item of a pattern or of a class stands for. -/
inductive Item where
  | char (c : Char)
  | set (s : CharSet)
  | anchor (a : Assertion)

/-- Exactly `n` hexadecimal digits. -/
def hexDigits (m : Modes) : Nat → List Char → List Char → Option (List Char × List Char)
  | 0, found, s => some (found.reverse, s)
  | n + 1, found, s =>
    match skip m s with
    | [] => none
    | c :: rest => if isHex c then hexDigits m n (c :: found) rest else none

/-- Hexadecimal digits up to a closing brace. -/
def hexBraced (m : Modes) (found : List Char) : List Char → Option (List Char × List Char)
  | [] => none
  | c :: rest =>
    if c == '\x7D' then if found.isEmpty then none else some (found.reverse, rest)
    else if isHex c then hexBraced m (c :: found) rest
    else if m.verbose && isBlank c then hexBraced m found rest
    else none

/-- A character given by its code point, behind `x`, `u` or `U`. Over ASCII alone a byte beyond ASCII is
no character. -/
def hexEscape (m : Modes) (kind : Char) (s : List Char) : Option (Item × List Char) := do
  let s ← match skip m s with | [] => none | s => some s
  let braced := s.head? == some '\x7B'
  let (digits, rest) ←
    if braced then hexBraced m [] s.tail
    else hexDigits m (match kind with | 'x' => 2 | 'u' => 4 | _ => 8) [] s
  let c ← scalar? (hexValue digits)
  if !braced && kind == 'x' && !m.unicode && 0x80 ≤ c.val then none
  else some (.char c, skip m rest)

/-- The first split of a text at a separator. -/
def splitAt? (separator : List Char) (s : List Char) : Option (List Char × List Char) :=
  go [] s
where
  go (before : List Char) : List Char → Option (List Char × List Char)
    | [] => none
    | c :: rest =>
      if separator.isPrefixOf (c :: rest) then
        some (before.reverse, (c :: rest).drop separator.length)
      else go (c :: before) rest

/-- The class that the text inside `\p` and braces denotes. -/
def propertyClass (negated : Bool) (name : List Char) : Option (Bool × CharSet) :=
  match splitAt? ['!', '='] name with
  | some (property, value) => (valuedClass? property value).map fun s => (!negated, s)
  | none =>
    match (splitAt? [':'] name).or (splitAt? ['='] name) with
    | some (property, value) => (valuedClass? property value).map fun s => (negated, s)
    | none => (namedClass? name).map fun s => (negated, s)

/-- A class given by a property, behind `p` or `P`. -/
def propertyEscape (m : Modes) (negated : Bool) (s : List Char) : Option (Item × List Char) := do
  if !m.unicode then none
  else
    match skip m s with
    | [] => none
    | '\x7B' :: rest =>
      let (name, rest) ← splitAt? ['\x7D'] rest
      let name := if m.verbose then name.filter (!isBlank ·) else name
      let (negated, set) ← propertyClass negated name
      let set ← m.finish negated set
      some (.set set, rest)
    | c :: rest =>
      if c == '\\' then none
      else
        let set ← namedClass? [c]
        let set ← m.finish negated set
        some (.set set, skip m rest)

/-- The edge of a word that a name in braces denotes. -/
def edgeNamed? (name : List Char) : Option WordEdge :=
  match String.ofList name with
  | "start" => some .start
  | "end" => some .stop
  | "start-half" => some .startHalf
  | "end-half" => some .stopHalf
  | _ => none

/-- A word boundary, behind `b`: alone or with the name of an edge in braces. A brace that no letter
follows begins a repetition. -/
def edgeEscape (m : Modes) (s : List Char) : Option (Item × List Char) :=
  let plain : Option (Item × List Char) := some (.anchor (m.edge .boundary), s)
  let isNameChar (c : Char) : Bool := c.isAlpha || c == '-'
  match s with
  | '\x7B' :: rest =>
    match skip m rest with
    | [] => none
    | c :: rest =>
      if !isNameChar c then plain
      else
        let name := (c :: rest).takeWhile fun d => isNameChar d || (m.verbose && isBlank d)
        match (c :: rest).drop name.length with
        | '\x7D' :: rest =>
          (edgeNamed? (name.filter isNameChar)).map fun kind => (.anchor (m.edge kind), rest)
        | _ => none
  | _ => plain

/-- A character that has a meaning of its own in patterns. -/
def isMeta (c : Char) : Bool := "\\.+*?()|[]\x7B\x7D^$#&-~".toList.contains c

/-- The item that an escape stands for, given the text behind the backslash. -/
def escape (m : Modes) : List Char → Option (Item × List Char)
  | [] => none
  | c :: rest =>
    if c.isDigit then none
    else if c == 'x' || c == 'u' || c == 'U' then hexEscape m c rest
    else if c == 'p' || c == 'P' then propertyEscape m (c == 'P') rest
    else if "dswDSW".toList.contains c then
      (m.letterClass c).map fun s => (.set s, rest)
    else if isMeta c then some (.char c, rest)
    else
      match c with
      | 'a' => some (.char '\x07', rest)
      | 'f' => some (.char '\x0C', rest)
      | 't' => some (.char '\t', rest)
      | 'n' => some (.char '\n', rest)
      | 'r' => some (.char '\r', rest)
      | 'v' => some (.char '\x0B', rest)
      | 'A' => some (.anchor .textStart, rest)
      | 'z' => some (.anchor .textEnd, rest)
      | 'b' => edgeEscape m rest
      | 'B' => some (.anchor (m.edge .inside), rest)
      | '<' => some (.anchor (m.edge .start), rest)
      | '>' => some (.anchor (m.edge .stop), rest)
      | c => if c.isAlpha || 0x80 ≤ c.val then none else some (.char c, rest)

/-! ## Classes in brackets -/

/-- How two sets of a class are combined. -/
inductive SetOp where
  | inter
  | diff
  | symmDiff

/-- Applies the operator that waits for its right side, if there is one. Letter case is closed on both
sides first. -/
def combine (m : Modes) (pending : Option (SetOp × CharSet)) (right : CharSet) : CharSet :=
  match pending with
  | none => right
  | some (.inter, left) => .inter (m.close left) (m.close right)
  | some (.diff, left) => .diff (m.close left) (m.close right)
  | some (.symmDiff, left) => .symmDiff (m.close left) (m.close right)

/-- A character as a member of a class. -/
def member (m : Modes) (c : Char) : Option CharSet :=
  if !m.unicode && 0x80 ≤ c.val then none else some (.single c)

/-- One item of a class, not yet read as the start of a range. -/
def classItem (m : Modes) : List Char → Option (Item × List Char)
  | [] => none
  | '\\' :: rest => escape m rest
  | c :: rest => some (.char c, rest)

/-- One item or one range of a class. -/
def classRange (m : Modes) (s : List Char) : Option (CharSet × List Char) := do
  let (item, rest) ← classItem m s
  let s ← match skip m rest with | [] => none | s => some s
  let next := (skip m s.tail).head?
  if s.head? != some '-' || next == some ']' || next == some '-' then
    match item with
    | .char c => (member m c).map fun set => (set, s)
    | .set set => some (set, s)
    | .anchor _ => none
  else
    let s ← bump m s
    let (last, rest) ← classItem m s
    match item, last with
    | .char a, .char b =>
      let _ ← member m a
      let _ ← member m b
      if a ≤ b then some (.range a b, rest) else none
    | _, _ => none

/-- A named class between `[:` and `:]`, given the text behind its opening bracket. -/
def asciiClassAt (m : Modes) (s : List Char) : Option (CharSet × List Char) := do
  match s with
  | ':' :: rest =>
    let negated := rest.head? == some '^'
    let rest := if negated then rest.tail else rest
    let name := rest.takeWhile (· != ':')
    match rest.drop name.length with
    | ':' :: ']' :: rest =>
      let set ← asciiClass? (String.ofList name)
      let set ← m.finish negated set
      some (set, rest)
    | _ => none
  | _ => none

/-- The dashes that open a class stand for themselves, and so does a bracket in the very first place. -/
def classOpening (m : Modes) : Nat → List CharSet → List Char → Option (List CharSet × List Char)
  | 0, _, _ => none
  | bound + 1, found, s =>
    match s with
    | '-' :: _ => do classOpening m bound (.single '-' :: found) (← bump m s)
    | ']' :: _ => if found.isEmpty then do some ([.single ']'], ← bump m s) else some (found, s)
    | _ => some (found, s)

mutual

/-- A class in brackets, given the text behind the opening one. `bound` is a bound on the text. -/
def bracketed (m : Modes) (depth : Nat) : Nat → List Char → Option (CharSet × List Char)
  | 0, _ => none
  | bound + 1, s =>
    if 250 ≤ depth then none
    else do
      let s ← match skip m s with | [] => none | s => some s
      let negated := s.head? == some '^'
      let s ← if negated then bump m s else some s
      let (opening, s) ← classOpening m (s.length + 1) [] s
      let (set, rest) ← classItems m depth none opening bound s
      let set ← m.finish negated set
      some (set, rest)

/-- The items of a class up to its closing bracket. `found` are the items of the current side and
`pending` is the operator in front of it. -/
def classItems (m : Modes) (depth : Nat) (pending : Option (SetOp × CharSet))
    (found : List CharSet) : Nat → List Char → Option (CharSet × List Char)
  | 0, _ => none
  | bound + 1, s =>
    let side := CharSet.unions found.reverse
    match skip m s with
    | [] => none
    | '[' :: rest =>
      match asciiClassAt m rest with
      | some (set, rest) => classItems m depth pending (set :: found) bound rest
      | none => do
        let (set, rest) ← bracketed m (depth + 1) bound rest
        classItems m depth pending (set :: found) bound rest
    | ']' :: rest => some (combine m pending side, rest)
    | '&' :: '&' :: rest => classItems m depth (some (.inter, combine m pending side)) [] bound rest
    | '-' :: '-' :: rest => classItems m depth (some (.diff, combine m pending side)) [] bound rest
    | '~' :: '~' :: rest =>
      classItems m depth (some (.symmDiff, combine m pending side)) [] bound rest
    | s => do
      let (set, rest) ← classRange m s
      classItems m depth pending (set :: found) bound rest

end

/-! ## Repetitions -/

/-- A number of repetitions, with the blanks around it; `none` in the first place without digits. -/
def count (m : Modes) (s : List Char) : Option Nat × List Char :=
  let s := s.dropWhile isBlank
  let isDigitOrSkipped (c : Char) : Bool := c.isDigit || (m.verbose && isBlank c)
  let digits := (s.takeWhile isDigitOrSkipped).filter Char.isDigit
  let rest := (s.dropWhile isDigitOrSkipped).dropWhile isBlank
  let n := digits.foldl (fun n c => 10 * n + (c.toNat - 0x30)) 0
  (if digits.isEmpty || 0x100000000 ≤ n then none else some n, skip m rest)

/-- The bounds of a counted repetition, given the text behind the opening brace. -/
def bounds (m : Modes) (s : List Char) : Option (Nat × Option Nat × List Char) := do
  let (least, rest) := count m s
  match rest with
  | ',' :: rest =>
    match skip m rest with
    | '\x7D' :: rest => some (← least, none, rest)
    | rest =>
      let least ← least
      let (most, rest) := count m rest
      let most ← most
      match rest with
      | '\x7D' :: rest => if least ≤ most then some (least, some most, rest) else none
      | _ => none
  | '\x7D' :: rest =>
    let least ← least
    some (least, some least, rest)
  | _ => none

/-- The number of bytes that the compiled form of a set takes, roughly. -/
def setSize : CharSet → Nat
  | .range first last =>
    if last.val < 0x80 then 32 else if first == last then 32 * last.utf8Size else 160
  | .word => 20000
  | .blank => 640
  | .digit => 2400
  | .listed ranges => 32 * ranges.length
  | .union a b => setSize a + setSize b
  | .inter a b => setSize a + setSize b
  | .compl a => 160 + setSize a
  | .folded a => 64 + setSize a

/-- The number of bytes that the compiled form of a pattern takes, roughly. -/
def size : Pattern → Nat
  | .empty => 32
  | .one set => setSize set
  | .assert _ => 32
  | .seq p q => size p + size q
  | .alt p q => 48 + size p + size q
  | .plus p _ => 48 + size p
  | .group _ p => 64 + size p

/-- The largest compiled form that is accepted. -/
def sizeLimit : Nat := 10 * 1024 * 1024

/-- Repeats a pattern, if the result is not too large. -/
def repeated (p : Pattern) (greedy : Bool) (least : Nat) (most : Option Nat) : Option Pattern :=
  if sizeLimit < size p * max least (most.getD 1) then none
  else
    match most with
    | none => some (p.atLeast greedy least)
    | some most => some (p.between greedy least most)

/-! ## Groups and alternatives -/

/-- The letters of a mode group up to its end. `on` is false behind the minus sign, and `seen` holds the
letters so far. -/
def modeLetters (m : Modes) (on : Bool) (seen : List Char) :
    List Char → Option (Modes × Bool × List Char)
  | [] => none
  | c :: rest =>
    if c == ':' || c == ')' then
      if seen.head? == some '-' then none else some (m, seen.isEmpty, c :: rest)
    else if seen.contains c then none
    else if c == '-' then modeLetters m false (c :: seen) rest
    else
      match m.switch? c on with
      | some m => modeLetters m on (c :: seen) rest
      | none => none

/-- The name of a group, up to the closing angle bracket. -/
def groupName (s : List Char) : Option (String × List Char) :=
  let name := s.takeWhile (· != '>')
  match s.drop name.length, name with
  | '>' :: rest, first :: others =>
    let startsWell := first == '_' || isAlphabetic first
    let isNameChar (c : Char) : Bool :=
      c == '_' || c == '.' || c == '[' || c == ']' || isAlphanumeric c
    if startsWell && others.all isNameChar then some (String.ofList name, rest) else none
  | _, _ => none

/-- What the reader has found in a group so far. -/
structure Progress where
  modes : Modes
  /-- The names of groups, over the whole pattern. -/
  names : List String
  /-- The alternatives that are complete, the latest first. -/
  branches : List Pattern
  /-- The parts of the current alternative, the latest first. -/
  parts : List Pattern
  /-- Whether the last part can be repeated. -/
  repeatable : Bool

namespace Progress

/-- A group that has just been opened. -/
def start (modes : Modes) (names : List String) : Progress := ⟨modes, names, [], [], false⟩

/-- Adds a part. -/
def push (g : Progress) (p : Pattern) : Progress :=
  { g with parts := p :: g.parts, repeatable := true }

/-- Ends the current alternative. -/
def branch (g : Progress) : Progress :=
  { g with branches := .seqs g.parts.reverse :: g.branches, parts := [], repeatable := false }

/-- The pattern of the whole group. -/
def pattern (g : Progress) : Pattern := .alts g.branch.branches.reverse

/-- Repeats the last part. -/
def repeatLast (g : Progress) (greedy : Bool) (least : Nat) (most : Option Nat) :
    Option Progress :=
  match g.repeatable, g.parts with
  | true, p :: parts =>
    (repeated p (greedy != g.modes.swapGreed) least most).map fun p =>
      { g with parts := p :: parts }
  | _, _ => none

/-- Adds what an item stands for. -/
def item (g : Progress) : Item → Progress
  | .char c =>
    let beyond := !g.modes.unicode && 0x80 ≤ c.val
    g.push (.one (if beyond then .single c else g.modes.close (.single c)))
  | .set s => g.push (.one s)
  | .anchor a => g.push (.assert a)

/-- Repeats the last part, and passes over the mark for a lazy repetition if it follows. -/
def repetition (g : Progress) (least : Nat) (most : Option Nat) (s : List Char) :
    Option (Progress × List Char) := do
  let isLazy := s.head? == some '?'
  some (← g.repeatLast (!isLazy) least most, if isLazy then s.tail else s)

end Progress

/-- Reads a group up to its closing parenthesis, which is left in the text, or up to the end. -/
def group (depth : Nat) : Nat → Progress → List Char → Option (Progress × List Char)
  | 0, _, _ => none
  | bound + 1, g, s =>
    let m := g.modes
    match skip m s with
    | [] => some (g, [])
    | ')' :: rest => some (g, ')' :: rest)
    | '|' :: rest => group depth bound g.branch rest
    | '(' :: rest =>
      let inner (m : Modes) (names : List String) (wrap : Pattern → Pattern) (s : List Char) :
          Option (Progress × List Char) :=
        if 250 ≤ depth then none
        else
          match group (depth + 1) bound (.start m names) s with
          | some (h, ')' :: rest) =>
            group depth bound ({ g with names := h.names }.push (wrap h.pattern)) rest
          | _ => none
      match skip m rest with
      | '?' :: 'P' :: '<' :: rest | '?' :: '<' :: rest => do
        let (name, rest) ← groupName rest
        if g.names.contains name then none
        else inner m (name :: g.names) (.group name) rest
      | '?' :: rest =>
        match modeLetters m true [] rest with
        | some (modes, noLetters, ')' :: rest) =>
          if noLetters then none
          else group depth bound { g with modes, repeatable := false } rest
        | some (modes, _, ':' :: rest) => inner modes g.names id rest
        | _ => none
      | rest => inner m g.names id rest
    | '[' :: rest => do
      let (set, rest) ← bracketed m depth bound rest
      group depth bound (g.push (.one set)) rest
    | '?' :: rest => do
      let (g, rest) ← g.repetition 0 (some 1) rest
      group depth bound g rest
    | '*' :: rest => do
      let (g, rest) ← g.repetition 0 none rest
      group depth bound g rest
    | '+' :: rest => do
      let (g, rest) ← g.repetition 1 none rest
      group depth bound g rest
    | '\x7B' :: rest => do
      let (least, most, rest) ← bounds m rest
      let (g, rest) ← g.repetition least most (skip m rest)
      group depth bound g rest
    | '.' :: rest => do group depth bound (g.push (.one (← m.dot))) rest
    | '^' :: rest => group depth bound (g.push (.assert m.caret)) rest
    | '$' :: rest => group depth bound (g.push (.assert m.dollar)) rest
    | '\\' :: rest => do
      let (item, rest) ← escape m rest
      group depth bound (g.item item) rest
    | c :: rest => group depth bound (g.item (.char c)) rest

end Reader

/-- The pattern that a text denotes. -/
def ofText? (text : String) : Option Pattern :=
  let s := text.toList
  match Reader.group 0 (s.length + 1) (.start {} []) s with
  | some (g, []) =>
    let p := g.pattern
    if Reader.size p ≤ Reader.sizeLimit then some p else none
  | _ => none

end Periscope.Pattern
