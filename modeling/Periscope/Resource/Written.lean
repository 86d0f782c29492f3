import Periscope.Json.Shape
import Periscope.Resource.Entry
import Periscope.Resource.Identifier
import Periscope.Resource.Name

/-!
# Resource types as JSON

The written forms of identifiers, entries and names, and how they are read back.
-/

namespace Periscope

open Json

/-! ## Identifiers -/

/-- The fields of an identifier. -/
def Identifier.fields : Fields :=
  [("apiVersion", .defaulted, .optional .text), ("kind", .defaulted, .optional .text),
   ("resource", .defaulted, .optional .text), ("group", .defaulted, .optional .text)]

/-- The identifier of a record with its fields. -/
def Identifier.ofRecord (v : Json) : Identifier :=
  ⟨v.textAt? "apiVersion", v.textAt? "kind", v.textAt? "resource", v.textAt? "group"⟩

/-- The identifier that a value denotes. -/
def Identifier.ofJson (v : Json) : Except FitError Identifier :=
  (Shape.fit (.record "ResourceIdentifier" fields) v).map ofRecord

/-- A member for a text that is present. -/
def optionalMember (name : String) (value : Option String) : List (String × Json) :=
  (value.map fun s => (name, Json.str s)).toList

/-- The written form of an identifier; parts that are missing are left out. -/
def Identifier.toJson (id : Identifier) : Json :=
  .object (optionalMember "apiVersion" id.apiVersion ++ optionalMember "kind" id.kind ++
    optionalMember "resource" id.resource ++ optionalMember "group" id.group)

/-! ## Entries and lists -/

/-- The shape of an entry. -/
def ResourceEntry.shape : Shape :=
  .record "ApiResource"
    [("name", .required, .text), ("singularName", .defaulted, .text),
     ("namespaced", .defaulted, .flag), ("kind", .required, .text),
     ("shortNames", .defaulted, .list .text), ("verbs", .defaulted, .list .text)]

/-- The entry of a record with its fields. -/
def ResourceEntry.ofRecord (v : Json) : ResourceEntry :=
  { name := v.textAt "name"
    singularName := v.textAt "singularName"
    namespaced := v.flagAt "namespaced"
    kind := v.textAt "kind"
    shortNames := v.textsAt "shortNames"
    verbs := v.textsAt "verbs" }

/-- The entry that a value denotes. -/
def ResourceEntry.ofJson (v : Json) : Except FitError ResourceEntry := (shape.fit v).map ofRecord

/-- A member for a list of texts that is not empty. -/
def listMember (name : String) (texts : List String) : List (String × Json) :=
  if texts.isEmpty then [] else [(name, .arr (texts.map .str))]

/-- The written form of an entry; empty lists are left out. -/
def ResourceEntry.toJson (e : ResourceEntry) : Json :=
  .object ([("name", .str e.name), ("singularName", .str e.singularName),
    ("namespaced", .bool e.namespaced), ("kind", .str e.kind)] ++
    listMember "shortNames" e.shortNames ++ listMember "verbs" e.verbs)

/-- The shape of a resource list. -/
def ResourceList.shape : Shape :=
  .record "ApiResourceList"
    [("groupVersion", .required, .text), ("resources", .defaulted, .list ResourceEntry.shape)]

/-- The resource list of a record with its fields. -/
def ResourceList.ofRecord (v : Json) : ResourceList :=
  ⟨v.textAt "groupVersion", (v.itemsAt "resources").map ResourceEntry.ofRecord⟩

/-- The written form of a resource list. -/
def ResourceList.toJson (l : ResourceList) : Json :=
  .object [("groupVersion", .str l.groupVersion),
    ("resources", .arr (l.resources.map ResourceEntry.toJson))]

/-! ## Names -/

/-- The written form of a group version. -/
def GroupVersion.toJson (gv : GroupVersion) : Json :=
  .object [("group", .str gv.group), ("version", .str gv.version)]

/-- The written form of the full name of a type. -/
def GroupVersionResource.toJson (r : GroupVersionResource) : Json :=
  .object [("group", .str r.group), ("version", .str r.version), ("resource", .str r.resource)]

/-- The written form of a kind in a version. -/
def GroupVersionKind.toJson (k : GroupVersionKind) : Json :=
  .object [("group", .str k.group), ("version", .str k.version), ("kind", .str k.kind)]

/-- The written form of a kind in a group. -/
def GroupKind.toJson (k : GroupKind) : Json :=
  .object [("group", .str k.group), ("kind", .str k.kind)]

/-- The members of a resolved type, in the order of its fields. -/
def ResolvedResource.members (r : ResolvedResource) : List (String × Json) :=
  [("group", .str r.type.group), ("version", .str r.type.version),
   ("resource", .str r.type.resource), ("namespaced", .bool r.namespaced)]

/-- The written form of a resolved type. -/
def ResolvedResource.toJson (r : ResolvedResource) : Json := .object r.members

end Periscope
