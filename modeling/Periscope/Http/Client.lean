import Periscope.Http.Message
import Periscope.Http.Url

/-!
# Reading from a server

A request goes to a URL of the web, perhaps with a bearer token. Whoever carries it out is the transport. It also
follows redirects, so what comes back is the response at their end.
-/

namespace Periscope.Http

/-- Carries requests to the servers of URLs and follows their redirects; a server that cannot be reached gives no
response. -/
abbrev Transport := Url → Request → Option Response

/-- The transport that reaches nothing. -/
def Transport.unreachable : Transport := fun _ _ => none

/-- Why there is no response. -/
inductive ClientError where
  /-- The request cannot be made at all. -/
  | unbuildable
  /-- The URL is none that requests can be sent to. -/
  | unfit (url : Url)
  | unreached (url : Url)
  deriving DecidableEq

/-- The text of an error. -/
def ClientError.message : ClientError → String
  | .unbuildable => "builder error"
  | .unfit url => "builder error for url (" ++ url.render ++ ")"
  | .unreached url => "error sending request for url (" ++ url.render ++ ")"

/-- Whether a text may be the value of a header. -/
def isHeaderText (s : String) : Bool := s.toList.all fun c => c == '\t' || (' ' ≤ c && c != '\x7F')

/-- Whether requests can be sent to a URL. -/
def Url.takesRequests (u : Url) : Bool :=
  (u.scheme == "http" || u.scheme == "https") && u.authority.isSome

/-- The request that reads what a URL denotes. -/
def getRequest (url : Url) (token : Option String) : Except ClientError Request :=
  if url.authority.isNone then .error (.unfit url)
  else
    let url := url.withoutUserinfo
    match token with
    | none => if url.takesRequests then .ok ⟨"GET", url.target, [], ""⟩ else .error (.unfit url)
    | some token =>
      if !isHeaderText token then .error .unbuildable
      else if !url.takesRequests then .error (.unfit url)
      else .ok ⟨"GET", url.target, [("authorization", "Bearer " ++ token)], ""⟩

/-- Reads what a URL denotes: the response behind all redirects. -/
def get (t : Transport) (url : Url) (token : Option String) : Except ClientError Response := do
  let request ← getRequest url token
  match t url request with
  | some response => .ok response
  | none => .error (.unreached url.withoutUserinfo)

/-- The text that stands for every fault of a body. -/
def undecodable : String := "invalid response: error decoding response body"

end Periscope.Http
