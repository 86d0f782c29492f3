import Periscope.Json.Reader
import Periscope.Json.Shape

/-!
# Reading texts by shape

A text is read by the shape of its value, so that the first fault of the text counts, whether it is one of
JSON or a value that does not fit. What stands in a member that is no field only has to be well formed.
-/

namespace Periscope.Json

/-- Why a text denotes no value of a shape. -/
inductive TextError where
  /-- The text is no JSON. -/
  | malformed
  | misfit (e : FitError)
  deriving DecidableEq

/-- What stands for the text of a syntax error. -/
def syntaxErrorText : String := "<json syntax error>"

/-- The text of an error. -/
def TextError.message : TextError → String
  | .malformed => syntaxErrorText
  | .misfit e => e.message

namespace Shape

open Reader

/-- The outcome of a reader that knows no reasons. -/
def wellFormed {α : Type} : Option α → Except TextError α
  | some a => .ok a
  | none => .error .malformed

/-- The error of a text whose value is not what is expected. Of a container only the opening is looked
at. -/
def unexpected {α : Type} (expected : String) (s : List Char) : Except TextError α := do
  let found ←
    match s with
    | '[' :: _ => .ok (Json.arr [])
    | '\x7B' :: _ => .ok (Json.obj [])
    | s => (wellFormed (value true 0 (s.length + 1) s)).map Prod.fst
  .error (.misfit (.wrongType found.describe expected))

/-- The text of the next item: `none` at the closing bracket. -/
def nextItem (isFirst : Bool) (s : List Char) : Except TextError (Option (List Char)) :=
  match skipBlank s with
  | [] => .error .malformed
  | ']' :: _ => .ok none
  | ',' :: rest =>
    match skipBlank rest with
    | ']' :: _ => .error .malformed
    | rest => if isFirst then .error .malformed else .ok (some rest)
  | rest => if isFirst then .ok (some rest) else .error .malformed

/-- The text behind a character that has to come after blanks. -/
def expect (c : Char) (s : List Char) : Except TextError (List Char) :=
  match skipBlank s with
  | [] => .error .malformed
  | d :: rest => if c == d then .ok rest else .error .malformed

/-- The items of an array up to its closing bracket. -/
def readItems (item : List Char → Except TextError (Json × List Char)) :
    Nat → Bool → List Char → Except TextError (List Json × List Char)
  | 0, _, _ => .error .malformed
  | bound + 1, isFirst, s => do
    match ← nextItem isFirst s with
    | none => .ok ([], ← expect ']' s)
    | some s =>
      let (v, rest) ← item s
      let (found, rest) ← readItems item bound false rest
      .ok (v :: found, rest)

/-- The fields among the members of an object up to its closing brace, one member at least. -/
def readMembers (isField : String → Bool)
    (field : String → List Char → Except TextError (Json × List Char)) :
    Nat → List String → List Char → Except TextError (List (String × Json) × List Char)
  | 0, _, _ => .error .malformed
  | bound + 1, seen, s => do
    let (key, rest) ← wellFormed (string true (← expect '"' s))
    if isField key && seen.contains key then .error (.misfit (.duplicateField key))
    else
      let rest ← expect ':' rest
      let (found, rest) ←
        if isField key then (field key rest).map fun (v, rest) => ([(key, v)], rest)
        else (wellFormed (skipValue rest)).map fun rest => ([], rest)
      match skipBlank rest with
      | ',' :: rest =>
        let (more, rest) ← readMembers isField field bound (key :: seen) rest
        .ok (found ++ more, rest)
      | '\x7D' :: rest => .ok (found, rest)
      | _ => .error .malformed

/-- An outcome whose error is about the value. -/
def fitting {α : Type} : Except FitError α → Except TextError α
  | .ok a => .ok a
  | .error e => .error (.misfit e)

mutual

/-- A value, after blanks, in the form that the shape gives it. `depth` is the number of containers that
may still be opened. -/
def read (depth : Nat) : Shape → List Char → Except TextError (Json × List Char)
  | .any, s =>
    (wellFormed (value true depth (s.length + 1) s)).map fun (v, rest) => (v.normalize, rest)
  | .text, s =>
    match skipBlank s with
    | '"' :: rest => (wellFormed (string true rest)).map fun (s, rest) => (.str s, rest)
    | s => unexpected "a string" s
  | .flag, s =>
    match skipBlank s with
    | 't' :: rest => (wellFormed (word "rue".toList rest)).map (.bool true, ·)
    | 'f' :: rest => (wellFormed (word "alse".toList rest)).map (.bool false, ·)
    | s => unexpected "a boolean" s
  | .natural bits, s => do
    match number true (skipBlank s) with
    | some (n, rest) => .ok (← fitting (fitNatural bits (.num n)), rest)
    | none => unexpected ("u" ++ toString bits) (skipBlank s)
  | .texts, s => do
    let (v, rest) ← wellFormed (value true depth (s.length + 1) s)
    .ok (← fitting (fit .texts v), rest)
  | .optional of, s =>
    match skipBlank s with
    | 'n' :: rest => (wellFormed (word "ull".toList rest)).map (.null, ·)
    | s => read depth of s
  | .list of, s =>
    match depth, skipBlank s with
    | 0, '[' :: _ => .error .malformed
    | depth + 1, '[' :: rest =>
      (readItems (fun s => read depth of s) (rest.length + 1) true rest).map
        fun (found, rest) => (.arr found, rest)
    | _, s => unexpected "a sequence" s
  | .record type fields, s =>
    match depth, skipBlank s with
    | 0, '[' :: _ => .error .malformed
    | 0, '\x7B' :: _ => .error .malformed
    | depth + 1, '[' :: rest =>
      (readFields (arrayExpectation type fields) depth 0 fields rest).map
        fun (found, rest) => (.obj found, rest)
    | depth + 1, '\x7B' :: rest => do
      let (found, rest) ←
        match skipBlank rest with
        | '\x7D' :: rest => .ok ([], rest)
        | rest =>
          readMembers (hasField fields) (fun name s => readField depth name fields s)
            (rest.length + 1) [] rest
      fitting (checkPresent found fields)
      .ok (.obj found, rest)
    | _, s => unexpected ("struct " ++ type) s

/-- The value of a field. -/
def readField (depth : Nat) (name : String) :
    List (String × Presence × Shape) → List Char → Except TextError (Json × List Char)
  | [], _ => .error .malformed
  | (key, _, shape) :: rest, s =>
    if key == name then read depth shape s else readField depth name rest s

/-- The fields that an array gives in their order, up to its closing bracket. -/
def readFields (expected : String) (depth index : Nat) :
    List (String × Presence × Shape) → List Char → Except TextError (List (String × Json) × List Char)
  | [], s => (expect ']' s).map fun rest => ([], rest)
  | (name, presence, shape) :: fields, s => do
    match ← nextItem (index == 0) s with
    | none =>
      if presence == .defaulted then readFields expected depth (index + 1) fields s
      else .error (.misfit (.wrongLength index expected))
    | some s =>
      let (v, rest) ← read depth shape s
      let (found, rest) ← readFields expected depth (index + 1) fields rest
      .ok ((name, v) :: found, rest)

end

/-- The value at the front of a text, whatever stands behind it. -/
def ofFront (shape : Shape) (text : String) : Except TextError Json :=
  (shape.read maxDepth text.toList).map Prod.fst

/-- The value of a whole text. -/
def ofText (shape : Shape) (text : String) : Except TextError Json := do
  let (v, rest) ← shape.read maxDepth text.toList
  if (skipBlank rest).isEmpty then .ok v else .error .malformed

end Shape

end Periscope.Json
