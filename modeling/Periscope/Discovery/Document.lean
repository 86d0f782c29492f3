import Periscope.Discovery.Snapshot
import Periscope.Json.ShapeReader
import Periscope.Resource.Written

/-!
# Discovery documents

A document gives the resource lists in one of two forms: an object with the lists and the group versions
that failed, or the bare array of the lists.
-/

namespace Periscope

open Json

namespace Snapshot

/-- The shape of the object form. -/
def shape : Shape :=
  .record "DiscoveryDocument"
    [("resources", .required, .list ResourceList.shape), ("failedGroups", .defaulted, .texts)]

/-- Group versions and the reasons why they failed. -/
def reasonsOf (v : Json) : List (String × String) :=
  v.members.filterMap fun (key, reason) => reason.str?.map fun s => (key, s)

/-- The snapshot of a record with its fields. -/
def ofRecord (v : Json) : Snapshot :=
  ⟨(v.itemsAt "resources").map ResourceList.ofRecord, reasonsOf ((v.get? "failedGroups").getD .null)⟩

/-- The snapshot that a value denotes. A value in neither form gives the same error whatever is wrong. -/
def ofJson (v : Json) : Except FitError Snapshot :=
  let found :=
    match v with
    | .arr items =>
      (Shape.fit (.list ResourceList.shape) (.arr items)).toOption.map fun v =>
        ⟨(v.arr?.getD []).map ResourceList.ofRecord, []⟩
    | v => (shape.fit v).toOption.map ofRecord
  match found with
  | some s => .ok s
  | none => .error (.noVariant "DiscoveryDocument")

/-- The object form of a snapshot. -/
def toJson (s : Snapshot) : Json :=
  .object [("resources", .arr (s.lists.map ResourceList.toJson)),
    ("failedGroups", .obj (s.failedGroups.map fun (key, reason) => (key, .str reason)))]

end Snapshot

/-- The snapshot that the text of a document denotes. -/
def Snapshot.ofText (text : String) : Except DiscoveryError Snapshot :=
  let invalid (reason : String) : DiscoveryError :=
    .unavailable ("invalid discovery document: " ++ reason)
  match Json.written? text with
  | none => .error (invalid syntaxErrorText)
  | some v =>
    match Snapshot.ofJson v with
    | .ok s => .ok s
    | .error e => .error (invalid e.message)

/-- The written form of the preferred versions; no failures are left out. -/
def PreferredResources.toJson (p : PreferredResources) : Json :=
  let failed : List (String × Json) :=
    if p.failedGroups.isEmpty then []
    else [("failedGroups", .obj (p.failedGroups.map fun (key, reason) => (key, .str reason)))]
  .object (("lists", .arr (p.lists.map ResourceList.toJson)) :: failed)

end Periscope
