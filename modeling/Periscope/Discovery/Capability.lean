import Periscope.Discovery.Error
import Periscope.Resource.Entry
import Periscope.Resource.Name

/-!
# The discovery capability

What resolution needs to know about the API surface: three exact look-ups, and the preferred version of
every group.
-/

namespace Periscope

/-- The preferred version of every group, and the group versions that could not be read. -/
structure PreferredResources where
  lists : List ResourceList
  /-- Group version and reason, by ascending group version. -/
  failedGroups : List (String × String)
  deriving DecidableEq

/-- The look-ups in an API surface. -/
structure Discovery where
  /-- The type that a resource word means. -/
  resourceFor : PartialResource → Except DiscoveryError GroupVersionResource
  /-- The kind of the objects of a type. -/
  kindFor : GroupVersionResource → Except DiscoveryError GroupVersionKind
  /-- The type whose objects have a kind, in a version if one is given. -/
  restMapping : GroupKind → Option String → Except DiscoveryError RestMapping
  preferred : Except DiscoveryError PreferredResources

end Periscope
