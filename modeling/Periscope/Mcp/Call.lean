import Periscope.Inspection.Inspector
import Periscope.Mcp.Tool

/-!
# Calls of tools

A call names a tool and gives its arguments. Its result leaves the server redacted.
-/

namespace Periscope.Mcp

open Json

/-- Why a call fails. -/
inductive CallError where
  | missingName
  | unknownTool (name : String)
  | arguments (e : FitError)
  | inspection (e : InspectError)
  deriving DecidableEq

/-- The text of an error. -/
def CallError.message : CallError → String
  | .missingName => "Missing tool name"
  | .unknownTool name => "Unknown tool: " ++ name
  | .arguments e => e.message
  | .inspection e => e.message

/-- A tool with its arguments. -/
inductive Call where
  | resolve (id : Identifier) (exact : Bool)
  | apiResources
  | list (id : Identifier) (ns selector : Option String)
  | get (id : Identifier) (name : String) (ns : Option String)
  | redact (value : Json)

namespace Call

/-- The call of a tool with arguments. -/
def ofArguments (tool : Tool) (v : Json) : Except FitError Call :=
  match tool with
  | .resolve =>
    (Shape.fitShared "ResolveArgs" [("exact", .defaulted, .flag)] Identifier.fields v).map fun r =>
      .resolve (Identifier.ofRecord r) (r.flagAt "exact")
  | .apiResources => .ok .apiResources
  | .list =>
    let own : Fields :=
      [("namespace", .nullable, .optional .text), ("labelSelector", .nullable, .optional .text)]
    (Shape.fitShared "ListArgs" own Identifier.fields v).map fun r =>
      .list (Identifier.ofRecord r) (r.textAt? "namespace") (r.textAt? "labelSelector")
  | .get =>
    let own : Fields := [("name", .required, .text), ("namespace", .nullable, .optional .text)]
    (Shape.fitShared "GetArgs" own Identifier.fields v).map fun r =>
      .get (Identifier.ofRecord r) (r.textAt "name") (r.textAt? "namespace")
  | .redact =>
    (Shape.fit (.record "RedactArgs" [("value", .required, .any)]) v).map fun r =>
      .redact ((r.get? "value").getD .null)

/-- The call that the parameters of a request describe. Arguments that are missing or null are none. -/
def ofParams (params : Json) : Except CallError Call :=
  match params.textAt? "name" with
  | none => .error .missingName
  | some name =>
    match Tool.ofName? name with
    | none => .error (.unknownTool name)
    | some tool =>
      let given :=
        match params.get? "arguments" with
        | none => .obj []
        | some .null => .obj []
        | some v => v
      match ofArguments tool given with
      | .ok call => .ok call
      | .error e => .error (.arguments e)

end Call

/-- What a call does. -/
def perform (i : Inspector) : Call → Inspection Json
  | .resolve id exact => do return (← i.resolve id exact).toJson
  | .apiResources => i.apiResources
  | .list id ns selector => i.list id ns selector
  | .get id name ns => i.get id name ns
  | .redact value => return value

/-- Calls a tool. Results leave only through here, redacted. -/
def callTool (i : Inspector) (params : Json) : StateM Session (Except CallError Json) := do
  match Call.ofParams params with
  | .error e => return .error e
  | .ok call =>
    match ← (perform i call).run with
    | .ok v => return .ok (i.redactor.redactValue v)
    | .error e => return .error (.inspection e)

end Periscope.Mcp
