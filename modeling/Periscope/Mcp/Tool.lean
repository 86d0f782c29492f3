import Periscope.Json.Basic

/-!
# Tools

The tools that an agent may call. Every one of them only reads.
-/

namespace Periscope.Mcp

/-- A tool. -/
inductive Tool where
  | resolve
  | apiResources
  | list
  | get
  | redact
  deriving DecidableEq

namespace Tool

/-- The tools in the order of their listing. -/
def all : List Tool := [.resolve, .apiResources, .list, .get, .redact]

/-- The name by which a tool is called. -/
def name : Tool → String
  | .resolve => "probe_resolve"
  | .apiResources => "probe_api_resources"
  | .list => "probe_list"
  | .get => "probe_get"
  | .redact => "probe_redact"

/-- The tool with a name. -/
def ofName? (name : String) : Option Tool := all.find? (·.name == name)

/-- What a tool does, in a sentence. -/
def description : Tool → String
  | .resolve =>
    "Resolve a partial resource identifier (apiVersion, kind, resource, group) to one API resource type"
  | .apiResources => "List the preferred version of every API group the control plane serves"
  | .list =>
    "List objects of a resource type, optionally within a namespace or by label selector"
  | .get => "Get one object of a resource type by name"
  | .redact => "Redact secrets from an arbitrary JSON value"

/-! ## Schemas of the arguments -/

/-- The schema of a text. -/
def textSchema : Json := .object [("type", .str "string")]

/-- The schema of a text with its meaning. -/
def describedText (description : String) : Json :=
  .object [("type", .str "string"), ("description", .str description)]

/-- The properties of an identifier. -/
def identifierProperties : List (String × Json) :=
  [("apiVersion", describedText "group/version, or version for the core group"),
   ("kind", describedText "Kind, e.g. Deployment"),
   ("resource",
     describedText "Plural, singular or short name; may be qualified as resource.group"),
   ("group", describedText "API group; empty for the core group")]

/-- The properties of the arguments. -/
def properties : Tool → List (String × Json)
  | .resolve =>
    let exact : Json := .object [("type", .str "boolean"), ("default", .bool false),
      ("description", .str "Skip the best-effort scan")]
    identifierProperties ++ [("exact", exact)]
  | .apiResources => []
  | .list =>
    identifierProperties ++
      [("namespace", textSchema), ("labelSelector", describedText "e.g. app=web,tier!=db")]
  | .get => identifierProperties ++ [("name", textSchema), ("namespace", textSchema)]
  | .redact => [("value", .object [("description", .str "Any JSON value")])]

/-- The arguments that a call has to give. -/
def requiredArguments : Tool → List String
  | .get => ["name"]
  | .redact => ["value"]
  | _ => []

/-- The schema of the arguments. -/
def inputSchema (t : Tool) : Json :=
  let required : List (String × Json) :=
    if t.requiredArguments.isEmpty then []
    else [("required", .arr (t.requiredArguments.map .str))]
  .object ([("type", .str "object"), ("properties", .object t.properties)] ++ required)

/-- The listing of a tool. -/
def toJson (t : Tool) : Json :=
  .object [("name", .str t.name), ("description", .str t.description),
    ("inputSchema", t.inputSchema), ("annotations", .object [("readOnlyHint", .bool true)])]

end Tool

/-- The listing of all tools. -/
def toolListing : Json := .object [("tools", .arr (Tool.all.map Tool.toJson))]

end Periscope.Mcp
