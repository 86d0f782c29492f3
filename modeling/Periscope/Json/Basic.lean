import Periscope.Json.Number

/-!
# JSON values

The values, and their normal form in which the keys of every object ascend and are unique.
-/

namespace Periscope

/-- A JSON value. An object is the list of its members. -/
inductive Json where
  | null
  | bool (b : Bool)
  | num (n : Json.Number)
  | str (s : String)
  | arr (items : List Json)
  | obj (members : List (String × Json))

namespace Json

/-- Puts a member into an object whose keys ascend, in the place of a member with the same key. -/
def insertMember (key : String) (value : Json) : List (String × Json) → List (String × Json)
  | [] => [(key, value)]
  | (k, v) :: rest =>
    if key < k then (key, value) :: (k, v) :: rest
    else if key == k then (key, value) :: rest
    else (k, v) :: insertMember key value rest

/-- The members with ascending keys; of a repeated key the last one counts. -/
def sortMembers (members : List (String × Json)) : List (String × Json) :=
  members.foldl (fun sorted (key, value) => insertMember key value sorted) []

mutual

/-- The normal form of a value. -/
def normalize : Json → Json
  | .arr items => .arr (normalizeItems items)
  | .obj members => .obj (sortMembers (normalizeMembers members))
  | v => v

/-- The normal forms of the items. -/
def normalizeItems : List Json → List Json
  | [] => []
  | v :: rest => v.normalize :: normalizeItems rest

/-- The members with their values in normal form. -/
def normalizeMembers : List (String × Json) → List (String × Json)
  | [] => []
  | (key, v) :: rest => (key, v.normalize) :: normalizeMembers rest

end

mutual

/-- Equality of values, member by member. -/
def beq : Json → Json → Bool
  | .null, .null => true
  | .bool a, .bool b => a == b
  | .num a, .num b => a == b
  | .str a, .str b => a == b
  | .arr a, .arr b => beqItems a b
  | .obj a, .obj b => beqMembers a b
  | _, _ => false

/-- Equality of lists of values. -/
def beqItems : List Json → List Json → Bool
  | [], [] => true
  | a :: s, b :: t => beq a b && beqItems s t
  | _, _ => false

/-- Equality of lists of members. -/
def beqMembers : List (String × Json) → List (String × Json) → Bool
  | [], [] => true
  | (k, a) :: s, (l, b) :: t => k == l && beq a b && beqMembers s t
  | _, _ => false

end

instance : BEq Json := ⟨beq⟩

/-- An object of the given members, in normal form. -/
def object (members : List (String × Json)) : Json := .obj (sortMembers members)

/-- The member of an object, if the value is an object that has it. -/
def get? (v : Json) (key : String) : Option Json :=
  match v with
  | .obj members => members.lookup key
  | _ => none

/-- The text of a string value. -/
def str? : Json → Option String
  | .str s => some s
  | _ => none

/-- The items of an array. -/
def arr? : Json → Option (List Json)
  | .arr items => some items
  | _ => none

/-- The members of an object. -/
def members : Json → List (String × Json)
  | .obj members => members
  | _ => []

/-! ## Members by name -/

/-- The text of a member. -/
def textAt? (v : Json) (key : String) : Option String := (v.get? key).bind str?

/-- The text of a member, empty in its absence. -/
def textAt (v : Json) (key : String) : String := (v.textAt? key).getD ""

/-- Whether a member is true. -/
def flagAt (v : Json) (key : String) : Bool :=
  match v.get? key with
  | some (.bool b) => b
  | _ => false

/-- The count that a member gives. -/
def countAt? (v : Json) (key : String) : Option Nat :=
  match v.get? key with
  | some (.num (.int n)) => some n.toNat
  | _ => none

/-- The items of a member, none in its absence. -/
def itemsAt (v : Json) (key : String) : List Json := ((v.get? key).bind arr?).getD []

/-- The texts among the items of a member. -/
def textsAt (v : Json) (key : String) : List String := (v.itemsAt key).filterMap str?

/-! ## Values of simple kinds -/

/-- The number of a natural count. -/
def ofNat (n : Nat) : Json := .num (.int n)

/-- A text, or null in its absence. -/
def ofString? (s : Option String) : Json := (s.map Json.str).getD .null

end Json

end Periscope
