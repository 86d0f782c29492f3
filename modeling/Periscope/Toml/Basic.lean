import Periscope.Json.Basic

/-!
# Configuration values

The values that a configuration file is made of.
-/

namespace Periscope.Toml

/-- A value. A table is the list of its entries. -/
inductive Value where
  | text (s : String)
  | integer (n : Int)
  | float (x : Float)
  | flag (b : Bool)
  /-- A date, a time of day, or both, as written. -/
  | time (written : String)
  | array (items : List Value)
  | table (entries : List (String × Value))

mutual

/-- The value as JSON. A point in time is an object, with a member that no record has. -/
def Value.toJson : Value → Json
  | .text s => .str s
  | .integer n => .num (.int n)
  | .float x => .num (.double x.toBits)
  | .flag b => .bool b
  | .time written => .obj [("time of day or date", .str written)]
  | .array items => .arr (itemsToJson items)
  | .table entries => .obj (entriesToJson entries)

/-- The items as JSON. -/
def itemsToJson : List Value → List Json
  | [] => []
  | v :: rest => v.toJson :: itemsToJson rest

/-- The entries as JSON. -/
def entriesToJson : List (String × Value) → List (String × Json)
  | [] => []
  | (key, v) :: rest => (key, v.toJson) :: entriesToJson rest

end

end Periscope.Toml
