import Periscope.Json.Shape
import Periscope.Text.Blank
import Periscope.Toml.Reader

/-!
# Settings

The settings of the program, read from a configuration file. What a file leaves out has a default, and what
it adds does not count.
-/

namespace Periscope

open Json

/-- Where the API surface and the objects come from. -/
structure DiscoverySettings where
  /-- A discovery document on disk; it takes precedence over the server. -/
  file : Option String := none
  server : Option String := none
  /-- The variable that holds the bearer token. -/
  tokenVariable : String := "PROBE_TOKEN"
  refreshSeconds : Nat := 300
  timeoutSeconds : Nat := 30
  skipsVerification : Bool := false
  deriving DecidableEq

/-- What is redacted beyond the built-in rules. -/
structure RedactionSettings where
  extraKeys : List String := []
  extraPatterns : List String := []
  deriving DecidableEq

/-- Where the server listens. -/
structure ListenSettings where
  host : String := "127.0.0.1"
  port : Nat := 17474
  deriving DecidableEq

/-- The settings. -/
structure Settings where
  discovery : DiscoverySettings := {}
  redaction : RedactionSettings := {}
  listen : ListenSettings := {}
  deriving DecidableEq

/-! ## Reading -/

namespace DiscoverySettings

/-- The fields of the section. -/
def fields : Fields :=
  [("file", .defaulted, .optional .text), ("server", .defaulted, .optional .text),
   ("token_env", .defaulted, .text), ("refresh_secs", .defaulted, .natural 64),
   ("timeout_secs", .defaulted, .natural 64), ("insecure_skip_tls_verify", .defaulted, .flag)]

/-- The settings of a record with the fields. -/
def ofRecord (v : Json) : DiscoverySettings :=
  let default : DiscoverySettings := {}
  { file := v.textAt? "file"
    server := v.textAt? "server"
    tokenVariable := (v.textAt? "token_env").getD default.tokenVariable
    refreshSeconds := (v.countAt? "refresh_secs").getD default.refreshSeconds
    timeoutSeconds := (v.countAt? "timeout_secs").getD default.timeoutSeconds
    skipsVerification := v.flagAt "insecure_skip_tls_verify" }

/-- The bearer token, given what its variable holds: a blank text is none. -/
def tokenOf (held : Option String) : Option String :=
  held.filter fun t => !t.toList.all Text.isBlank

end DiscoverySettings

namespace RedactionSettings

/-- The fields of the section. -/
def fields : Fields :=
  [("extra_keys", .defaulted, .list .text), ("extra_patterns", .defaulted, .list .text)]

/-- The settings of a record with the fields. -/
def ofRecord (v : Json) : RedactionSettings := ⟨v.textsAt "extra_keys", v.textsAt "extra_patterns"⟩

end RedactionSettings

namespace ListenSettings

/-- The fields of the section. -/
def fields : Fields := [("host", .defaulted, .text), ("port", .defaulted, .natural 16)]

/-- The settings of a record with the fields. -/
def ofRecord (v : Json) : ListenSettings :=
  let default : ListenSettings := {}
  { host := (v.textAt? "host").getD default.host
    port := (v.countAt? "port").getD default.port }

end ListenSettings

namespace Settings

/-- The record in a section. A section that is left out is empty; one that is an array may be longer than
the record. -/
def section? (settings : Json) (name : String) (fields : Fields) : Option Json :=
  let given :=
    match settings.get? name with
    | none => .obj []
    | some (.arr items) => .arr (items.take fields.length)
    | some v => v
  (Shape.fit (.record name fields) given).toOption

/-- The settings that the text of a file denotes. -/
def ofText? (text : String) : Option Settings := do
  let v := (← Toml.ofText? text).toJson
  some
    { discovery := .ofRecord (← section? v "discovery" DiscoverySettings.fields)
      redaction := .ofRecord (← section? v "redaction" RedactionSettings.fields)
      listen := .ofRecord (← section? v "mcp" ListenSettings.fields) }

/-- The text of the file that is written where there is none: the defaults. -/
def initialText : String :=
  "\n".intercalate
    ["[discovery]", "token_env = \"PROBE_TOKEN\"", "refresh_secs = 300", "timeout_secs = 30",
     "insecure_skip_tls_verify = false", "", "[redaction]", "extra_keys = []",
     "extra_patterns = []", "", "[mcp]", "host = \"127.0.0.1\"", "port = 17474", ""]

/-- The settings as JSON. -/
def toJson (s : Settings) : Json :=
  let optional (name : String) (value : Option String) : List (String × Json) :=
    (value.map fun text => (name, Json.str text)).toList
  .object
    [("discovery", .object
      (optional "file" s.discovery.file ++ optional "server" s.discovery.server ++
        [("token_env", .str s.discovery.tokenVariable),
         ("refresh_secs", .ofNat s.discovery.refreshSeconds),
         ("timeout_secs", .ofNat s.discovery.timeoutSeconds),
         ("insecure_skip_tls_verify", .bool s.discovery.skipsVerification)])),
     ("redaction", .object
      [("extra_keys", .arr (s.redaction.extraKeys.map .str)),
       ("extra_patterns", .arr (s.redaction.extraPatterns.map .str))]),
     ("mcp", .object [("host", .str s.listen.host), ("port", .ofNat s.listen.port)])]

end Settings

end Periscope
