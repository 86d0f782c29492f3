import Periscope.Json.Printer
import Periscope.Mcp.Call
import Periscope.Mcp.Message
import Periscope.Text.Blank

/-!
# The server

Requests are dispatched by their method. On standard input each line is a request; blank lines and
notifications get no response.
-/

namespace Periscope.Mcp

/-- The version of the protocol. -/
def protocolVersion : String := "2024-11-05"

/-- The name of the program. -/
def programName : String := "probe"

/-- The version of the program. -/
def programVersion : String := "0.2.0"

/-- What the server tells of itself when a session begins. -/
def greeting : Json :=
  .object [("protocolVersion", .str protocolVersion),
    ("capabilities", .object [("tools", .obj [])]),
    ("serverInfo", .object [("name", .str programName), ("version", .str programVersion)])]

/-- The result of a tool as content: the value, and its text spread over lines. -/
def toolResult (v : Json) : Json :=
  .object [("content", .arr [.object [("type", .str "text"), ("text", .str v.pretty)]]),
    ("structuredContent", v), ("isError", .bool false)]

/-- The outcome of a method. -/
def dispatch (i : Inspector) (method : String) (params : Json) :
    StateM Session (Except Failure Json) := do
  match method with
  | "initialize" => return .ok greeting
  | "initialized" | "notifications/initialized" | "ping" => return .ok (.obj [])
  | "tools/list" => return .ok toolListing
  | "tools/call" =>
    match ← callTool i params with
    | .ok v => return .ok (toolResult v)
    | .error e => return .error (.ofTool e.message)
  | _ => return .error (.unknownMethod method)

/-- The response to a request. -/
def respond (i : Inspector) (r : Request) : StateM Session Response := do
  return ⟨r.id, ← dispatch i r.method r.params⟩

/-- The response to a line. -/
def respondToLine (i : Inspector) (line : String) : StateM Session (Option Response) := do
  if line.toList.all Text.isBlank then return none
  else
    match Request.shape.ofText line with
    | .error e => return some ⟨.null, .error (.unreadable e)⟩
    | .ok v =>
      let request := Request.ofRecord v
      let response ← respond i request
      return if request.isNotification then none else some response

/-- The responses to the lines, in their order. -/
def respondToLines (i : Inspector) : List String → StateM Session (List Response)
  | [] => return []
  | line :: rest => do
    let first ← respondToLine i line
    let others ← respondToLines i rest
    return first.toList ++ others

end Periscope.Mcp
