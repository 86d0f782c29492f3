import Periscope.Discovery.Capability
import Periscope.Text.Blank

/-!
# The table of resource types

One line for each type, in columns that are as wide as their widest cell.
-/

namespace Periscope.CommandLine

/-- The heads of the columns. -/
def tableHead : List String := ["NAME", "SHORTNAMES", "APIVERSION", "NAMESPACED", "KIND"]

/-- The cells of a type. -/
def tableRow (groupVersion : String) (e : ResourceEntry) : List String :=
  [e.name, ",".intercalate e.shortNames, groupVersion, if e.namespaced then "true" else "false",
   e.kind]

/-- The rows of the lists; parts of other types have none. -/
def tableRows (lists : List ResourceList) : List (List String) :=
  lists.flatMap fun l =>
    (l.resources.filter fun e => !e.isSubresource).map (tableRow l.groupVersion)

/-- The number of bytes of the widest cell in each column. -/
def columnWidths (rows : List (List String)) : List Nat :=
  (List.range tableHead.length).map fun i =>
    rows.foldl (fun width row => max width ((row[i]?).getD "").utf8ByteSize) 0

/-- A text with blanks behind it up to a number of characters. -/
def padded (width : Nat) (s : String) : String :=
  s ++ String.ofList (List.replicate (width - s.length) ' ')

/-- A line of the table, without blanks at its end. -/
def tableLine (widths : List Nat) (row : List String) : String :=
  let line := "   ".intercalate (List.zipWith padded widths row)
  String.ofList (line.toList.reverse.dropWhile Text.isBlank).reverse ++ "\n"

/-- The table of the lists. -/
def renderTable (lists : List ResourceList) : String :=
  let rows := tableHead :: tableRows lists
  String.join (rows.map (tableLine (columnWidths rows)))

end Periscope.CommandLine
