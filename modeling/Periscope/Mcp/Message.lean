import Periscope.Json.ShapeReader

/-!
# Messages

Requests and responses of the remote procedure protocol. A request without an identity is a notification.
-/

namespace Periscope.Mcp

open Json

/-- A request. -/
structure Request where
  /-- What the response repeats; null in a notification. -/
  id : Json
  method : String
  params : Json

/-- Why a request is not served. -/
structure Failure where
  code : Int
  message : String
  deriving DecidableEq

/-- A response. -/
structure Response where
  id : Json
  outcome : Except Failure Json

namespace Request

/-- The shape of a request. -/
def shape : Shape :=
  .record "JsonRpcRequest"
    [("jsonrpc", .required, .text), ("id", .defaulted, .any), ("method", .required, .text),
     ("params", .defaulted, .any)]

/-- The request of a record with its fields. -/
def ofRecord (v : Json) : Request :=
  ⟨(v.get? "id").getD .null, v.textAt "method", (v.get? "params").getD .null⟩

/-- Whether nobody waits for a response. -/
def isNotification (r : Request) : Bool := r.id == .null

end Request

namespace Failure

/-- The text is no request. -/
def unreadable (e : TextError) : Failure := ⟨-32700, "Parse error: " ++ e.message⟩

/-- There is no such method. -/
def unknownMethod (method : String) : Failure := ⟨-32601, "Method not found: " ++ method⟩

/-- A tool has failed. -/
def ofTool (reason : String) : Failure := ⟨-32000, reason⟩

end Failure

/-- The written form of a response, its members in the order of the protocol. -/
def Response.toJson (r : Response) : Json :=
  let outcome :=
    match r.outcome with
    | .ok result => ("result", result)
    | .error f => ("error", .obj [("code", .num (.int f.code)), ("message", .str f.message)])
  .obj [("jsonrpc", .str "2.0"), ("id", r.id), outcome]

end Periscope.Mcp
