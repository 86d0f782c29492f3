import Periscope.Http.MediaType
import Periscope.Http.Message
import Periscope.Mcp.Server

/-!
# The server over HTTP

One route, under two paths, tells of the server and takes requests. Every origin may use it.
-/

namespace Periscope.Mcp

open Http

/-- The paths under which the server answers. -/
def routes : List String := ["/", "/mcp"]

/-- The number of bytes that a body may have. -/
def bodyLimit : Nat := 2 * 1024 * 1024

/-- The response with a status and a body, open to every origin. -/
def answer (status : Nat) (body : String) : Http.Response :=
  ⟨status, [("access-control-allow-origin", "*")], body⟩

/-- What the server tells of itself. -/
def information : Json :=
  .object [("name", .str programName), ("version", .str programVersion), ("protocol", .str "mcp"),
    ("transport", .str "http")]

/-- Whether the body of a request is declared to be JSON. -/
def declaresJson (r : Http.Request) : Bool :=
  ((r.header? "content-type").bind MediaType.ofText?).any MediaType.isJson

/-- The answer to a posted request. What stands behind the request in the body is not looked at. -/
def post (i : Inspector) (r : Http.Request) : StateM Session Http.Response := do
  if !declaresJson r then return answer 415 ""
  else if bodyLimit < r.body.utf8ByteSize then return answer 413 ""
  else
    match Request.shape.ofFront r.body with
    | .error .malformed => return answer 400 ""
    | .error (.misfit _) => return answer 422 ""
    | .ok v =>
      let response ← respond i (Request.ofRecord v)
      return answer 200 response.toJson.compact

/-- The answer to an HTTP request. A question for the options is answered whatever its path. -/
def route (i : Inspector) (r : Http.Request) : StateM Session Http.Response := do
  if r.method == "OPTIONS" then return answer 200 ""
  else if !routes.contains r.path then return answer 404 ""
  else
    match r.method with
    | "GET" => return answer 200 information.compact
    | "HEAD" => return answer 200 ""
    | "POST" => post i r
    | _ => return answer 405 ""

end Periscope.Mcp
