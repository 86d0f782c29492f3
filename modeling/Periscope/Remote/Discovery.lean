import Periscope.Discovery.Snapshot
import Periscope.Http.Client
import Periscope.Http.Status
import Periscope.Json.ShapeReader
import Periscope.Resource.Written

/-!
# The API surface of a server

A server announces its group versions in two root documents, and serves the resource list of each under a
path of its own. The root documents have to load; a group version that does not load is recorded as failed.
-/

namespace Periscope.Remote

open Http Json

/-- A server with an API surface. -/
structure DiscoveryServer where
  /-- The address without slashes at its end. -/
  base : String
  token : Option String

/-- The path of the resource list of a group version. -/
def groupVersionPath (groupVersion : String) : String :=
  (if groupVersion.toList.contains '/' then "/apis/" else "/api/") ++ groupVersion

/-! ## Root documents -/

/-- The shape of the document about the core group. -/
def coreShape : Shape := .record "ApiVersions" [("versions", .defaulted, .list .text)]

/-- The shape of a version in the document about the other groups. -/
def versionShape : Shape :=
  .record "GroupVersionForDiscovery" [("groupVersion", .required, .text)]

/-- The shape of the document about the other groups. -/
def groupsShape : Shape :=
  let group : Shape :=
    .record "ApiGroup"
      [("versions", .defaulted, .list versionShape),
       ("preferredVersion", .nullable, .optional versionShape)]
  .record "ApiGroupList" [("groups", .defaulted, .list group)]

/-- The group versions of a group: the preferred one first, then the others in their order. -/
def orderedVersions (group : Json) : List String :=
  let preferred := (group.get? "preferredVersion").bind (·.textAt? "groupVersion")
  let all := (group.itemsAt "versions").filterMap (·.textAt? "groupVersion")
  preferred.toList ++ all.filter fun gv => some gv != preferred

namespace DiscoveryServer

/-- The server at an address. -/
def ofAddress (address : String) (token : Option String) : DiscoveryServer :=
  ⟨String.ofList (address.toList.reverse.dropWhile (· == '/')).reverse, token⟩

/-- Where snapshots come from. -/
def describe (s : DiscoveryServer) : String := "server " ++ s.base

/-- The request for a path. -/
def request (s : DiscoveryServer) (path : String) : Except ClientError (Url × Request) :=
  match Url.ofText? (s.base ++ path) with
  | .error _ => .error .unbuildable
  | .ok url => (getRequest url s.token).map (url, ·)

/-- The document under a path. -/
def load (s : DiscoveryServer) (t : Transport) (shape : Shape) (path : String) :
    Except String Json := do
  let refuse (reason : String) : Except String Json := .error ("GET " ++ path ++ ": " ++ reason)
  match Url.ofText? (s.base ++ path) with
  | .error _ => refuse ClientError.unbuildable.message
  | .ok url =>
    match Http.get t url s.token with
    | .error e => refuse e.message
    | .ok response =>
      if !response.isSuccess then refuse ("HTTP " ++ renderStatus response.status)
      else
        match shape.ofText response.body with
        | .ok v => .ok v
        | .error _ => refuse undecodable

/-- The group versions that the server announces: those of the core group, then those of the others. -/
def announced (s : DiscoveryServer) (t : Transport) : Except String (List String) := do
  let core ← s.load t coreShape "/api"
  let groups ← s.load t groupsShape "/apis"
  .ok (core.textsAt "versions" ++ (groups.itemsAt "groups").flatMap orderedVersions)

/-- The resource list of a group version. -/
def loadList (s : DiscoveryServer) (t : Transport) (groupVersion : String) :
    Except String ResourceList :=
  (s.load t ResourceList.shape (groupVersionPath groupVersion)).map ResourceList.ofRecord

/-- Puts a failed group version among the others, by ascending name; a later reason counts. -/
def addFailure (groupVersion reason : String) : List (String × String) → List (String × String)
  | [] => [(groupVersion, reason)]
  | (other, old) :: rest =>
    if groupVersion < other then (groupVersion, reason) :: (other, old) :: rest
    else if groupVersion == other then (groupVersion, reason) :: rest
    else (other, old) :: addFailure groupVersion reason rest

/-- The snapshot of the announced group versions. -/
def gather (load : String → Except String ResourceList) (announced : List String) : Snapshot :=
  let add (s : Snapshot) (gv : String) : Snapshot :=
    match load gv with
    | .ok list => { s with lists := s.lists ++ [list] }
    | .error reason => { s with failedGroups := addFailure gv reason s.failedGroups }
  announced.foldl add ⟨[], []⟩

/-- Reads the API surface. -/
def fetch (s : DiscoveryServer) (t : Transport) : Except DiscoveryError Snapshot :=
  match s.announced t with
  | .ok groupVersions => .ok (gather (s.loadList t) groupVersions)
  | .error reason => .error (.unavailable reason)

/-- The paths that reading the API surface asks for. -/
def pathsRead (s : DiscoveryServer) (t : Transport) : List String :=
  match s.load t coreShape "/api" with
  | .error _ => ["/api"]
  | .ok _ =>
    match s.announced t with
    | .error _ => ["/api", "/apis"]
    | .ok groupVersions => "/api" :: "/apis" :: groupVersions.map groupVersionPath

end DiscoveryServer

end Periscope.Remote
