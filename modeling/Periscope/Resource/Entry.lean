import Periscope.Resource.GroupVersion
import Periscope.Text.Lowercase

/-!
# Entries of the API surface

One entry for each resource type that a group version serves.
-/

namespace Periscope

open Text

/-- A resource type as a group version lists it. -/
structure ResourceEntry where
  name : String
  singularName : String
  namespaced : Bool
  kind : String
  shortNames : List String
  verbs : List String
  deriving DecidableEq

namespace ResourceEntry

/-- An entry whose singular name is its kind in small letters. -/
def ofKind (name kind : String) (namespaced : Bool) (shortNames verbs : List String) :
    ResourceEntry :=
  { name, kind, namespaced, shortNames, verbs
    singularName := String.ofList (lowercase kind.toList) }

/-- Whether the entry is a part of another type, such as `pods/log`. -/
def isSubresource (e : ResourceEntry) : Bool := e.name.toList.contains '/'

/-- Whether a word is the plural, the singular or a short name of the type. -/
def answersTo (e : ResourceEntry) (word : String) : Bool :=
  e.name == word || (!e.singularName.isEmpty && e.singularName == word) ||
    e.shortNames.contains word

end ResourceEntry

/-- The resource types of one group version. -/
structure ResourceList where
  groupVersion : String
  resources : List ResourceEntry
  deriving DecidableEq

/-- The group version of the list, if its text denotes one. -/
def ResourceList.parsed? (l : ResourceList) : Option GroupVersion :=
  GroupVersion.ofText? l.groupVersion

end Periscope
