import Periscope.Resolution.Error
import Periscope.Resource.Name

/-!
# Inspection errors

Why objects cannot be shown.
-/

namespace Periscope

/-- What a name in a request is the name of. -/
inductive NameRole where
  | objectName
  | namespaceName
  deriving DecidableEq

/-- The word for the role. -/
def NameRole.label : NameRole → String
  | .objectName => "name"
  | .namespaceName => "namespace"

/-- The cause of a failed inspection. -/
inductive InspectError where
  | resolve (e : ResolveError)
  | discovery (e : DiscoveryError)
  /-- A namespace is given for a type that has none. -/
  | clusterScoped (type : GroupVersionResource)
  | namespaceRequired (type : GroupVersionResource) (name : String)
  /-- A name that is no single segment of a path. -/
  | invalidName (role : NameRole) (value : String)
  | objectNotFound (path : String)
  /-- The objects could not be read. -/
  | source (reason : String)
  deriving DecidableEq

namespace InspectError

/-- The text of an inspection error. -/
def message : InspectError → String
  | .resolve e => e.message
  | .discovery e => e.message
  | .clusterScoped type => type.render ++ " is cluster-scoped; a namespace cannot be given"
  | .namespaceRequired type name =>
    type.render ++ " is namespaced; a namespace is required to get " ++ Text.quoted name
  | .invalidName role value =>
    "invalid input: " ++ role.label ++ " " ++ Text.quoted value ++ " is not a valid object " ++
      role.label
  | .objectNotFound path => path ++ " not found"
  | .source reason => "request failed: " ++ reason

/-- Whether the same request may succeed later. -/
def isRetriable : InspectError → Bool
  | .resolve e => e.isRetriable
  | .discovery (.unavailable _) => true
  | .source _ => true
  | _ => false

end InspectError

end Periscope
