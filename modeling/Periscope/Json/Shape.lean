import Periscope.Json.Basic
import Periscope.Text.Quoted

/-!
# Shapes of values

What is expected of a value is its shape. A record is given as an object, whose members may come in any
order and among others, or as an array of its fields in their order. Fitting a value to a shape gives the
value with its records as objects of just their fields, and what may be anything in normal form; the first
thing that does not fit is the error.
-/

namespace Periscope.Json

/-! ## Errors -/

/-- Why a value does not fit. -/
inductive FitError where
  | wrongType (found expected : String)
  /-- A value of the right type that is out of range. -/
  | invalidValue (found expected : String)
  | missingField (name : String)
  | duplicateField (name : String)
  | wrongLength (length : Nat) (expected : String)
  /-- None of the forms that a value may take fits. -/
  | noVariant (type : String)
  deriving DecidableEq

/-- The text of an error. -/
def FitError.message : FitError → String
  | .wrongType found expected => "invalid type: " ++ found ++ ", expected " ++ expected
  | .invalidValue found expected => "invalid value: " ++ found ++ ", expected " ++ expected
  | .missingField name => "missing field \x60" ++ name ++ "\x60"
  | .duplicateField name => "duplicate field \x60" ++ name ++ "\x60"
  | .wrongLength length expected =>
    "invalid length " ++ toString length ++ ", expected " ++ expected
  | .noVariant type => "data did not match any variant of untagged enum " ++ type

/-- What a value is, for an error. -/
def describe : Json → String
  | .null => "null"
  | .bool b => "boolean \x60" ++ (if b then "true" else "false") ++ "\x60"
  | .num (.int n) => "integer \x60" ++ (Number.int n).render ++ "\x60"
  | .num (.double bits) => "floating point \x60" ++ (Number.double bits).render ++ "\x60"
  | .str s => "string " ++ Text.quoted s
  | .arr _ => "sequence"
  | .obj _ => "map"

/-- The error that a value is not what is expected. -/
def misfit {α : Type} (v : Json) (expected : String) : Except FitError α :=
  .error (.wrongType v.describe expected)

/-! ## Shapes -/

/-- Whether a record has to give a field. -/
inductive Presence where
  | required
  /-- May be left out of an object, but an array has to reach as far. -/
  | nullable
  | defaulted
  deriving DecidableEq

/-- What is expected of a value. -/
inductive Shape where
  | any
  | text
  | flag
  /-- A number of so many bits, without a sign. -/
  | natural (bits : Nat)
  /-- A mapping from texts to texts. -/
  | texts
  | optional (of : Shape)
  | list (of : Shape)
  | record (type : String) (fields : List (String × Presence × Shape))

/-- The fields of a record. -/
abbrev Fields := List (String × Presence × Shape)

namespace Shape

/-- What stands in an error for a record as an array. -/
def arrayExpectation (type : String) (fields : Fields) : String :=
  "struct " ++ type ++ " with " ++ toString fields.length ++
    if fields.length == 1 then " element" else " elements"

/-- Whether a record has a field of a name. -/
def hasField (fields : Fields) (name : String) : Bool := fields.any (·.1 == name)

/-- Fits the members of an object from left to right and leaves out those that are no fields. A field is
known to repeat before its second value is looked at. -/
def fitMembers (isField : String → Bool) (fit : String → Json → Except FitError Json)
    (seen : List String) : List (String × Json) → Except FitError (List (String × Json))
  | [] => .ok []
  | (key, v) :: rest =>
    if !isField key then fitMembers isField fit seen rest
    else if seen.contains key then .error (.duplicateField key)
    else do
      let v ← fit key v
      let rest ← fitMembers isField fit (key :: seen) rest
      .ok ((key, v) :: rest)

/-- Checks that an object has the fields that it has to have. -/
def checkPresent (found : List (String × Json)) (fields : Fields) : Except FitError Unit :=
  match fields.find? fun f => f.2.1 == .required && (found.lookup f.1).isNone with
  | some f => .error (.missingField f.1)
  | none => .ok ()

/-- A number below a power of two. -/
def fitNatural (bits : Nat) (v : Json) : Except FitError Json :=
  let expected := "u" ++ toString bits
  match v with
  | .num (.int n) =>
    if 0 ≤ n && n < (Nat.pow 2 bits : Nat) then .ok v else .error (.invalidValue v.describe expected)
  | v => misfit v expected

/-- A mapping from texts to texts, by ascending key; of a repeated key the last one counts. -/
def fitTexts : List (String × Json) → Except FitError (List (String × Json))
  | [] => .ok []
  | (key, .str s) :: rest => (fitTexts rest).map ((key, .str s) :: ·)
  | (_, v) :: _ => misfit v "a string"

mutual

/-- The value in the form that the shape gives it. -/
def fit : Shape → Json → Except FitError Json
  | .any, v => .ok v.normalize
  | .text, v =>
    match v with
    | .str s => .ok (.str s)
    | v => misfit v "a string"
  | .flag, v =>
    match v with
    | .bool b => .ok (.bool b)
    | v => misfit v "a boolean"
  | .natural bits, v => fitNatural bits v
  | .texts, v =>
    match v with
    | .obj members => (fitTexts members).map fun found => .obj (sortMembers found)
    | v => misfit v "a map"
  | .optional of, v =>
    match v with
    | .null => .ok .null
    | v => fit of v
  | .list of, v =>
    match v with
    | .arr items => (items.mapM fun item => fit of item).map .arr
    | v => misfit v "a sequence"
  | .record type fields, v =>
    match v with
    | .obj members => do
      let found ← fitMembers (hasField fields) (fun key v => fitField key v fields) [] members
      checkPresent found fields
      .ok (.obj found)
    | .arr items => (fitItems (arrayExpectation type fields) items.length 0 fields items).map .obj
    | v => misfit v ("struct " ++ type)

/-- The value of a field. -/
def fitField (name : String) (v : Json) : List (String × Presence × Shape) → Except FitError Json
  | [] => .ok v
  | (key, _, shape) :: rest => if key == name then fit shape v else fitField name v rest

/-- The fields that an array gives in their order. -/
def fitItems (expected : String) (length index : Nat) :
    List (String × Presence × Shape) → List Json → Except FitError (List (String × Json))
  | [], [] => .ok []
  | [], _ :: _ => .error (.wrongLength length "fewer elements in array")
  | (_, presence, _) :: fields, [] =>
    if presence == .defaulted then fitItems expected length (index + 1) fields []
    else .error (.wrongLength index expected)
  | (name, _, shape) :: fields, v :: items => do
    let v ← fit shape v
    let rest ← fitItems expected length (index + 1) fields items
    .ok ((name, v) :: rest)

end

/-- A record that takes some of its fields from another one. It is given as an object only; what is wrong
with its own fields comes first. -/
def fitShared (type : String) (own shared : Fields) (v : Json) : Except FitError Json :=
  match v with
  | .obj _ => do
    let first ← fit (.record type own) v
    let second ← fit (.record type shared) v
    .ok (.obj (first.members ++ second.members))
  | v => misfit v ("struct " ++ type)

end Shape

end Periscope.Json
