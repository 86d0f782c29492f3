import Periscope.Toml.Basic

/-!
# Building tables

Tables grow by statements: a header opens a table or a further element of a list of tables, and an
assignment puts a value under a path. No statement may touch what another one has settled.
-/

namespace Periscope.Toml

/-- How a table has come about. -/
inductive Origin where
  /-- On the way to the table of a header. -/
  | implied
  /-- On the way of a dotted key. -/
  | dotted
  | header
  deriving DecidableEq

/-- What stands under a key while tables grow. -/
inductive Node where
  | value (v : Value)
  | table (origin : Origin) (entries : List (String × Node))
  /-- The elements of a list of tables. -/
  | tables (elements : List (List (String × Node)))

/-- The entries of a growing table. -/
abbrev Entries := List (String × Node)

/-- A statement of a file. -/
inductive Statement where
  /-- A value under a key, in the table that the path leads to. -/
  | assign (path : List String) (key : String) (value : Value)
  | header (path : List String) (key : String)
  /-- A further element of a list of tables. -/
  | element (path : List String) (key : String)

namespace Entries

/-- Puts a node into the place of the one under the same key, or else behind all others. -/
def put (key : String) (node : Node) : Entries → Entries
  | [] => [(key, node)]
  | (k, old) :: rest => if k == key then (k, node) :: rest else (k, old) :: put key node rest

/-- Changes the table that a path leads to. Tables that are missing on the way are made with the given
origin; the way leads through the last element of a list of tables. A dotted key does not lead through the
table of a header. -/
def change (made : Origin) (f : Origin → Entries → Option Entries) :
    List String → Origin → Entries → Option Entries
  | [], origin, entries => f origin entries
  | key :: path, _, entries =>
    match entries.lookup key with
    | none => do some (put key (.table made (← change made f path made [])) entries)
    | some (.value _) => none
    | some (.tables elements) => do
      let last ← change made f path .header (elements.getLast?.getD [])
      some (put key (.tables (elements.dropLast ++ [last])) entries)
    | some (.table origin inner) =>
      if made == .dotted && origin == .header then none
      else do some (put key (.table origin (← change made f path origin inner)) entries)

/-- Puts a value under a key that is new. -/
def assign (path : List String) (key : String) (v : Value) (entries : Entries) : Option Entries :=
  let insert (origin : Origin) (entries : Entries) : Option Entries :=
    if (!path.isEmpty && origin != .dotted) || (entries.lookup key).isSome then none
    else some (entries ++ [(key, .value v)])
  change .dotted insert path .header entries

/-- Opens the table of a header; only a table that has been implied so far may exist. -/
def openTable (path : List String) (key : String) (entries : Entries) : Option Entries :=
  let make (_ : Origin) (entries : Entries) : Option Entries :=
    match entries.lookup key with
    | none => some (entries ++ [(key, .table .header [])])
    | some (.table .implied inner) => some (put key (.table .header inner) entries)
    | some _ => none
  change .implied make path .header entries

/-- Adds an empty element to a list of tables. -/
def addElement (path : List String) (key : String) (entries : Entries) : Option Entries :=
  let make (_ : Origin) (entries : Entries) : Option Entries :=
    match entries.lookup key with
    | none => some (entries ++ [(key, .tables [[]])])
    | some (.tables elements) => some (put key (.tables (elements ++ [[]])) entries)
    | some _ => none
  change .implied make path .header entries

/-- Applies statements in their order; assignments go to the table of the last header. -/
def build (current : List String) (entries : Entries) : List Statement → Option Entries
  | [] => some entries
  | .assign path key v :: rest => do
    let entries ← change .implied (fun _ => assign path key v) current .header entries
    build current entries rest
  | .header path key :: rest => do
    build (path ++ [key]) (← openTable path key entries) rest
  | .element path key :: rest => do
    build (path ++ [key]) (← addElement path key entries) rest

end Entries

mutual

/-- The value that has grown. -/
def Node.toValue : Node → Value
  | .value v => v
  | .table _ entries => .table (entriesToValues entries)
  | .tables elements => .array (elementsToValues elements)

/-- The entries with the values that have grown. -/
def entriesToValues : List (String × Node) → List (String × Value)
  | [] => []
  | (key, node) :: rest => (key, node.toValue) :: entriesToValues rest

/-- The elements with the values that have grown. -/
def elementsToValues : List (List (String × Node)) → List Value
  | [] => []
  | entries :: rest => .table (entriesToValues entries) :: elementsToValues rest

end

end Periscope.Toml
