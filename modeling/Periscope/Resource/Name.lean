import Periscope.Resource.GroupVersion
import Periscope.Text.Quoted

/-!
# Names of resource types

A resource type is named by its group, its version and its plural word; its objects carry a kind. Look-ups
go from one to the other.
-/

namespace Periscope

open Text

/-- The full name of a resource type. -/
structure GroupVersionResource where
  group : String
  version : String
  resource : String
  deriving DecidableEq

namespace GroupVersionResource

/-- The group version of the type. -/
def groupVersion (r : GroupVersionResource) : GroupVersion := ⟨r.group, r.version⟩

/-- The text `<groupVersion>/<resource>`. -/
def render (r : GroupVersionResource) : String := r.groupVersion.render ++ "/" ++ r.resource

end GroupVersionResource

/-- A kind in a group. -/
structure GroupKind where
  group : String
  kind : String
  deriving DecidableEq

/-- The text `<kind>.<group>`, or the kind alone in the core group. -/
def GroupKind.render (k : GroupKind) : String :=
  if k.group.isEmpty then k.kind else k.kind ++ "." ++ k.group

/-- A kind in a version of a group. -/
structure GroupVersionKind where
  group : String
  version : String
  kind : String
  deriving DecidableEq

/-- The kind without its version. -/
def GroupVersionKind.groupKind (k : GroupVersionKind) : GroupKind := ⟨k.group, k.kind⟩

/-- A resource word with the group and the version to look for, where they are known. -/
structure PartialResource where
  group : Option String
  version : Option String
  resource : String
  deriving DecidableEq

/-- The description of what is looked for. -/
def PartialResource.render (p : PartialResource) : String :=
  "resource " ++ quoted p.resource ++
    match p.group, p.version with
    | some g, some v => " in " ++ GroupVersion.render ⟨g, v⟩
    | some g, none => if g.isEmpty then " in the core group" else " in group " ++ quoted g
    | none, some v => " at version " ++ quoted v
    | none, none => ""

/-- A resource type as it is finally resolved. -/
structure ResolvedResource where
  type : GroupVersionResource
  /-- Whether its objects live in namespaces. -/
  namespaced : Bool
  deriving DecidableEq

/-- A resource type together with the kind of its objects. -/
structure RestMapping where
  resource : GroupVersionResource
  kind : GroupVersionKind
  namespaced : Bool
  deriving DecidableEq

/-- The resource type of a mapping. -/
def RestMapping.resolved (m : RestMapping) : ResolvedResource := ⟨m.resource, m.namespaced⟩

end Periscope
