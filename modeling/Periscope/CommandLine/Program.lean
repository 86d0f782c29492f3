import Periscope.CommandLine.Host
import Periscope.CommandLine.Invocation
import Periscope.CommandLine.Table
import Periscope.Mcp.Server
import Periscope.Remote.Discovery
import Periscope.Remote.Objects
import Periscope.Settings

/-!
# The program

An invocation reads the settings, chooses where discovery and objects come from, and carries its command out.
What it comes to is a result to print, or a server to run.
-/

namespace Periscope.CommandLine

/-- Why a command fails. -/
inductive Failure where
  /-- The settings are no valid file. -/
  | settings
  | settingsFile (e : FileError)
  /-- Nothing tells where discovery comes from; the path is where settings could. -/
  | noDiscoverySource (path : String)
  | inputFile (path : String) (e : FileError)
  | discovery (e : DiscoveryError)
  | inspection (e : InspectError)
  deriving DecidableEq

/-- The text of a failure. -/
def Failure.message : Failure → String
  | .settings => "<toml error>"
  | .settingsFile e => e.message
  | .noDiscoverySource path =>
    "no discovery source: pass --discovery-file or --server, or set [discovery] in " ++ path
  | .inputFile path e => "reading " ++ path ++ "\n\nCaused by:\n    " ++ e.message
  | .discovery e => e.message
  | .inspection e => e.message

/-- What a finished command leaves. -/
structure Result where
  status : Nat
  output : String
  errors : String
  deriving DecidableEq

/-- What an invocation comes to. -/
inductive Outcome where
  | finished (r : Result)
  /-- Requests are to be served, one on each line of the standard input. -/
  | serveLines (i : Inspector) (session : Session)
  /-- Requests are to be served over HTTP. -/
  | listen (host : String) (port : Nat) (i : Inspector) (session : Session)

namespace Result

/-- Success with an output. -/
def success (output : String) : Result := ⟨0, output, ""⟩

/-- The result of a failure. -/
def failure (f : Failure) : Result := ⟨1, "", "Error: " ++ f.message ++ "\n"⟩

/-- The result of wrong arguments. -/
def usage : Result := ⟨2, "", usageText⟩

end Result

/-! ## Settings -/

/-- The file of the settings, unless an option names another one. -/
def settingsPath (v : Variables) : String :=
  let home := v.home.getD ""
  let directory := (v.configDirectory.filter (·.startsWith "/")).getD (home ++ "/.config")
  directory ++ "/probe/probe.toml"

/-- The settings in a file. Where there is none, one with the defaults is written. -/
def loadSettings {m : Type → Type} [Monad m] (h : Host m) (path : String) :
    m (Except Failure Settings) := do
  if ← h.isPresent path then
    match ← h.read path with
    | .error e => return .error (.settingsFile e)
    | .ok text =>
      match Settings.ofText? text with
      | some settings => return .ok settings
      | none => return .error .settings
  else
    match ← h.create path Settings.initialText with
    | .ok () => return .ok {}
    | .error e => return .error (.settingsFile e)

/-! ## Sources -/

/-- Where discovery and objects come from; options override settings. -/
structure Sources where
  discoveryFile : Option String
  server : Option String
  token : Option String

/-- The sources that options and settings name. -/
def Sources.of (o : GlobalOptions) (s : Settings) (token : Option String) : Sources :=
  { discoveryFile := o.discoveryFile.or s.discovery.file
    server := o.server.or s.discovery.server
    token }

/-- The snapshot in a file. -/
def snapshotOfFile (path : String) : Except FileError String → Except DiscoveryError Snapshot
  | .ok text => Snapshot.ofText text
  | .error e => .error (.unavailable ("reading " ++ path ++ ": " ++ e.message))

/-- How snapshots are fetched. A file comes before a server. -/
def fetcherOf {m : Type → Type} [Monad m] (h : Host m) (v : Variables) (s : Sources) :
    m (Except Failure Cache.Fetcher) := do
  match s.discoveryFile, s.server with
  | some path, _ => return .ok (.constant (snapshotOfFile path (← h.read path)))
  | none, some server =>
    return .ok (.constant ((Remote.DiscoveryServer.ofAddress server s.token).fetch h.transport))
  | none, none => return .error (.noDiscoverySource (settingsPath v))

/-- Where objects are read from. -/
def objectSourceOf (transport : Http.Transport) (s : Sources) : Except Failure ObjectSource :=
  match s.server with
  | none => .ok .offline
  | some server =>
    match Remote.ObjectServer.ofAddress server s.token with
    | .ok server => .ok (server.source transport)
    | .error e => .error (.inspection e)

/-- The redactor of the settings. -/
def redactorOf (s : Settings) : Redactor :=
  .withExtras s.redaction.extraKeys s.redaction.extraPatterns

/-! ## Commands -/

/-- A value over several lines, with a line end behind it. -/
def printed (v : Json) : String := v.pretty ++ "\n"

/-- The result of an inspection that ends with what is printed. -/
def resultOf (session : Session) (computation : Inspection String) : Result :=
  match (computation.run.run session).1 with
  | .ok output => .success output
  | .error e => .failure (.inspection e)

/-- A resolved type, in a sentence or as JSON. -/
def showResolved (asJson : Bool) (r : ResolvedResource) : String :=
  if asJson then printed (.obj r.members)
  else
    r.type.render ++ (if r.namespaced then " (namespaced)\n" else " (cluster-scoped)\n")

/-- The table of the preferred versions, and warnings of those that failed. -/
def showPreferred (p : PreferredResources) : Result :=
  let warning (failed : String × String) : String :=
    "warning: " ++ failed.1 ++ " unavailable: " ++ failed.2 ++ "\n"
  ⟨0, renderTable p.lists, String.join (p.failedGroups.map warning)⟩

/-- The counts of a report, in two columns. -/
def showCounts (report : List (String × Nat)) : String :=
  if report.isEmpty then "No redactions.\n"
  else
    let total := (report.map Prod.snd).foldl (· + ·) 0
    let line (count : String × Nat) : String :=
      "  " ++ padded 20 count.1 ++ " " ++ toString count.2 ++ "\n"
    "Redactions (" ++ toString total ++ "):\n" ++ String.join (report.map line)

/-- The input without its secrets: JSON value by value, all else as one text. -/
def redactInput (r : Redactor) (input : String) (showsCounts : Bool) : Result :=
  let (output, report) :=
    match Json.ofText? input with
    | some v => ((r.redactValue v).pretty, r.report v)
    | none => (r.redactText input, r.report (.str input))
  let output := if output.endsWith "\n" then output else output ++ "\n"
  ⟨0, output, if showsCounts then showCounts report else ""⟩

/-- The identifier of a type that is given by one word. -/
def identifierOf (resource : String) : Identifier := ⟨none, none, some resource, none⟩

/-- The answer to a question. -/
def answer (i : Inspector) : Question → Inspection String
  | .resolve id exact asJson => do return showResolved asJson (← i.resolve id exact)
  | .apiResources => do return printed (← i.apiResources)
  | .get resource name ns => do return printed (← i.get (identifierOf resource) name ns)
  | .list resource ns selector => do
    return printed (← i.list (identifierOf resource) ns selector)

/-- Starts to serve, once the types are known. -/
def startServing (i : Inspector) (session : Session) (overLines : Bool) (listen : ListenSettings) :
    Outcome :=
  match i.snapshot.run.run session with
  | (.error e, _) => .finished (.failure (.inspection e))
  | (.ok _, session) =>
    if overLines then .serveLines i session else .listen listen.host listen.port i session

/-- The table that a fetcher leads to. -/
def tabulate (fetcher : Cache.Fetcher) (cache : Cache.State) : Result :=
  let preferred : Except DiscoveryError PreferredResources := do
    (← (cache.current fetcher).2).snapshot.discovery.preferred
  match preferred with
  | .ok preferred => showPreferred preferred
  | .error e => .failure (.discovery e)

/-- Carries out a command that needs to know the types. -/
def consult (settings : Settings) (sources : Sources) (transport : Http.Transport)
    (fetcher : Cache.Fetcher) (command : Command) : Outcome :=
  let cache : Cache.State := .empty (some settings.discovery.refreshSeconds)
  let withInspector (use : Inspector → Outcome) : Outcome :=
    match objectSourceOf transport sources with
    | .error f => .finished (.failure f)
    | .ok source => use ⟨fetcher, source, redactorOf settings⟩
  match command with
  | .ask q => withInspector fun i => .finished (resultOf ⟨cache, []⟩ (answer i q))
  | .serve overLines host port =>
    let listen : ListenSettings :=
      { host := host.getD settings.listen.host, port := port.getD settings.listen.port }
    withInspector fun i => startServing i ⟨cache, []⟩ overLines listen
  | _ => .finished (tabulate fetcher cache)

/-- Carries out a command. -/
def perform {m : Type → Type} [Monad m] (h : Host m) (v : Variables) (settings : Settings)
    (sources : Sources) (command : Command) : m Outcome := do
  match command with
  | .redact none showsCounts =>
    return .finished (redactInput (redactorOf settings) (← h.input) showsCounts)
  | .redact (some path) showsCounts =>
    match ← h.read path with
    | .ok text => return .finished (redactInput (redactorOf settings) text showsCounts)
    | .error e => return .finished (.failure (.inputFile path e))
  | command =>
    match ← fetcherOf h v sources with
    | .error f => return .finished (.failure f)
    | .ok fetcher => return consult settings sources h.transport fetcher command

/-- Carries out an invocation. -/
def run {m : Type → Type} [Monad m] (h : Host m) (v : Variables) (i : Invocation) : m Outcome := do
  match i.command with
  | .completions _ => return .finished (.success completionText)
  | command =>
    match ← loadSettings h (i.options.config.getD (settingsPath v)) with
    | .error f => return .finished (.failure f)
    | .ok settings =>
      let token := DiscoverySettings.tokenOf (← h.environment settings.discovery.tokenVariable)
      perform h v settings (.of i.options settings token) command

/-- Runs the program with its arguments. -/
def program {m : Type → Type} [Monad m] (h : Host m) (arguments : List String) : m Outcome := do
  let v ← h.variables
  match Request.ofArguments arguments v with
  | .usage => return .finished .usage
  | .help => return .finished (.success usageText)
  | .version =>
    return .finished (.success (Mcp.programName ++ " " ++ Mcp.programVersion ++ "\n"))
  | .run i => run h v i

/-- The lines of a text. -/
def linesOf (text : String) : List String :=
  let lines := text.splitOn "\n"
  if lines.getLast? == some "" then lines.dropLast else lines

/-- The lines of responses to lines of requests. -/
def serveText (i : Inspector) (session : Session) (input : String) : String :=
  let (responses, _) := (Mcp.respondToLines i (linesOf input)).run session
  String.join (responses.map fun r => r.toJson.compact ++ "\n")

end Periscope.CommandLine
