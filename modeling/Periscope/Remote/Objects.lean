import Periscope.Http.Client
import Periscope.Http.Status
import Periscope.Inspection.Inspector
import Periscope.Json.ShapeReader

/-!
# Objects from a server

A query becomes a request below the base URL of a server: each of its segments is encoded on its own, so that
a name stays inside its collection, and the label selector is the only parameter.
-/

namespace Periscope.Remote

open Http

/-- A server with objects. -/
structure ObjectServer where
  base : Url
  token : Option String

namespace ObjectServer

/-- The server at an address. -/
def ofAddress (address : String) (token : Option String) : Except InspectError ObjectServer :=
  match Url.ofText? address with
  | .ok base => .ok ⟨base, token⟩
  | .error e =>
    .error (.source ("invalid server URL " ++ Text.quoted address ++ ": " ++ e.message))

/-- The parameter for a label selector. -/
def selectorQuery (selector : Option String) : Option (List Char) :=
  selector.map fun s => "labelSelector=".toList ++ formEncode s.toList

/-- The URL of a query. -/
def url (s : ObjectServer) (q : ResourceQuery) : Except InspectError Url :=
  match s.base.extended? q.segments (selectorQuery q.selector?) with
  | some url => .ok url
  | none => .error (.source ("server URL " ++ s.base.render ++ " has no path"))

/-- The request for a query. -/
def request (s : ObjectServer) (q : ResourceQuery) : Except InspectError Request := do
  match getRequest (← s.url q) s.token with
  | .ok request => .ok request
  | .error e => .error (.source e.message)

/-- The value that a response to a query gives. -/
def read (q : ResourceQuery) (r : Response) : Except InspectError Json :=
  if r.status == 404 then .error (.objectNotFound q.path)
  else if !r.isSuccess then
    .error (.source ("GET " ++ q.path ++ ": HTTP " ++ renderStatus r.status))
  else
    match Json.Shape.any.ofText r.body with
    | .ok v => .ok v
    | .error _ => .error (.source undecodable)

/-- The source that asks the server. -/
def source (s : ObjectServer) (t : Transport) : ObjectSource := fun q => do
  match Http.get t (← s.url q) s.token with
  | .ok response => read q response
  | .error e => .error (.source e.message)

end ObjectServer

end Periscope.Remote
