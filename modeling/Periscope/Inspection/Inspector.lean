import Periscope.Cache.Schedule
import Periscope.Discovery.Document
import Periscope.Inspection.Error
import Periscope.Inspection.Query
import Periscope.Redaction.Redactor
import Periscope.Resolution.BestEffort

/-!
# The inspector

An inspector resolves an identifier, reads objects and redacts them. All that it gives out has been through
its redactor. It uses the discovery cache and sends queries; both make up its session, which outlives
errors.
-/

namespace Periscope

/-- Where objects are read from. -/
abbrev ObjectSource := ResourceQuery → Except InspectError Json

/-- The source that stands in where no server is configured. -/
def ObjectSource.offline : ObjectSource := fun q =>
  .error (.source ("no server configured to serve " ++ q.path))

/-- What the requests to an inspector leave behind. -/
structure Session where
  cache : Cache.State
  /-- The queries sent to the source, in their order. -/
  sent : List ResourceQuery

/-- A computation that may fail, in a session. -/
abbrev Inspection (α : Type) := ExceptT InspectError (StateM Session) α

/-- Resolves, reads and redacts. -/
structure Inspector where
  fetcher : Cache.Fetcher
  source : ObjectSource
  redactor : Redactor

namespace Inspector

/-! ## Checks -/

/-- Whether a text can stand as one segment of a path and means itself there. -/
def isSegment (s : String) : Bool :=
  !s.isEmpty && s != "." && s != ".." && !s.toList.contains '/'

/-- Checks that a name stays a single segment. -/
def checkName (role : NameRole) (value : String) : Except InspectError Unit :=
  if isSegment value then .ok () else .error (.invalidName role value)

/-- Checks a namespace that is given; an empty one does not count. -/
def checkNamespace (ns : Option String) : Except InspectError Unit :=
  match ns.filter fun s => !s.isEmpty with
  | some ns => checkName .namespaceName ns
  | none => .ok ()

/-- Checks that a namespace is given only for a type that has namespaces. -/
def checkScope (resource : ResolvedResource) (ns : Option String) : Except InspectError Unit :=
  if (ns.any fun s => !s.isEmpty) && !resource.namespaced then .error (.clusterScoped resource.type)
  else .ok ()

/-- Checks that a namespace is given for an object that lives in one. -/
def checkNamespaced (resource : ResolvedResource) (name : String) (ns : Option String) :
    Except InspectError Unit :=
  if resource.namespaced && ns.all String.isEmpty then
    .error (.namespaceRequired resource.type name)
  else .ok ()

/-! ## Secret payloads -/

/-- Whether the objects of the type hold opaque secrets. -/
def holdsSecrets (type : GroupVersionResource) : Bool :=
  type.group.isEmpty && type.resource == "secrets"

/-- The fields that hold the payload of a secret. -/
def payloadFields : List String := ["data", "stringData"]

/-- A payload with the marker in the place of every value. -/
def maskPayload : Json → Json
  | .obj members => .obj (members.map fun (key, _) => (key, .str Redaction.marker))
  | v => v

/-- An object with its payloads masked. -/
def maskObject : Json → Json
  | .obj members =>
    .obj (members.map fun (key, v) => (key, if payloadFields.contains key then maskPayload v else v))
  | v => v

/-- The objects with their payloads masked; content rules cannot recognise them. -/
def maskPayloads : Json → Json
  | .arr items => .arr (items.map maskObject)
  | v => maskObject v

/-! ## Requests -/

/-- The redacted answer: the objects with their type. -/
def present (i : Inspector) (resource : ResolvedResource) (items : Json) : Json :=
  let items := if holdsSecrets resource.type then maskPayloads items else items
  i.redactor.redactValue (.object [("resource", resource.toJson), ("items", items)])

/-- The objects of a response: its items if it has any, else the response as a whole. -/
def itemsOf (response : Json) : Json := (response.get? "items").getD response

/-- The current snapshot of the API surface. -/
def snapshot (i : Inspector) : Inspection Snapshot := do
  let session ← get
  let (cache, result) := session.cache.current i.fetcher
  set { session with cache }
  match result with
  | .ok published => return published.snapshot
  | .error e => throw (.discovery e)

/-- The type that an identifier denotes. -/
def resolve (i : Inspector) (id : Identifier) (exact : Bool) : Inspection ResolvedResource := do
  let snapshot ← i.snapshot
  let d := snapshot.discovery
  match if exact then d.resolveExact id else d.resolveBestEffort id with
  | .ok resolved => return resolved
  | .error e => throw (.resolve e)

/-- Sends a query to the source. -/
def send (i : Inspector) (q : ResourceQuery) : Inspection Json := do
  modify fun session => { session with sent := session.sent ++ [q] }
  ofExcept (i.source q)

/-- The objects of a type, in all namespaces if none is given. -/
def list (i : Inspector) (id : Identifier) (ns selector : Option String) : Inspection Json := do
  ofExcept (checkNamespace ns)
  let resource ← i.resolve id false
  ofExcept (checkScope resource ns)
  let response ← i.send (((ResourceQuery.all resource).inNamespace ns).selecting selector)
  return i.present resource (itemsOf response)

/-- The object with a name. -/
def get (i : Inspector) (id : Identifier) (name : String) (ns : Option String) : Inspection Json := do
  ofExcept (checkName .objectName name)
  ofExcept (checkNamespace ns)
  let resource ← i.resolve id false
  ofExcept (checkScope resource ns)
  ofExcept (checkNamespaced resource name ns)
  let object ← i.send (((ResourceQuery.all resource).inNamespace ns).named name)
  return i.present resource (.arr [object])

/-- The preferred version of every group. -/
def apiResources (i : Inspector) : Inspection Json := do
  let snapshot ← i.snapshot
  match snapshot.discovery.preferred with
  | .ok preferred => return i.redactor.redactValue preferred.toJson
  | .error e => throw (.discovery e)

end Inspector

end Periscope
