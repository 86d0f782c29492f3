import Periscope.Resource.Name

/-!
# Resource queries

A query reads the objects of one type, or one object by its name. Its REST path is the list of its segments.
-/

namespace Periscope

/-- One read of objects of a resource type. -/
structure ResourceQuery where
  resource : ResolvedResource
  ns? : Option String
  name? : Option String
  selector? : Option String
  deriving DecidableEq

namespace ResourceQuery

/-- The query for all objects of a type. -/
def all (resource : ResolvedResource) : ResourceQuery := ⟨resource, none, none, none⟩

/-- Restricts the query to a namespace; an empty one does not count. -/
def inNamespace (q : ResourceQuery) (ns : Option String) : ResourceQuery :=
  { q with ns? := ns.filter fun s => !s.isEmpty }

/-- Restricts the query to the object with a name. -/
def named (q : ResourceQuery) (name : String) : ResourceQuery := { q with name? := some name }

/-- Restricts the query to the objects that a label selector selects; an empty one does not count. -/
def selecting (q : ResourceQuery) (selector : Option String) : ResourceQuery :=
  { q with selector? := selector.filter fun s => !s.isEmpty }

/-- The segments under which a type is served: the core group has a root of its own. -/
def rootSegments (type : GroupVersionResource) : List String :=
  if type.group.isEmpty then ["api", type.version] else ["apis", type.group, type.version]

/-- The segments of the path. -/
def segments (q : ResourceQuery) : List String :=
  let scope :=
    match q.ns? with
    | some ns => ["namespaces", ns]
    | none => []
  rootSegments q.resource.type ++ scope ++ [q.resource.type.resource] ++ q.name?.toList

/-- The REST path of the collection or of the object. -/
def path (q : ResourceQuery) : String := "/" ++ "/".intercalate q.segments

end ResourceQuery

end Periscope
