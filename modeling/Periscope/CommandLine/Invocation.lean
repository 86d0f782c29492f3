import Periscope.CommandLine.Arguments
import Periscope.CommandLine.Host
import Periscope.Resource.Identifier

/-!
# Invocations

What the arguments of the program ask for: a command, and where discovery and settings come from. The global
options may stand before or behind the command; those behind it count first, variables of the environment
last.
-/

namespace Periscope.CommandLine

/-- The options of every command. -/
structure GlobalOptions where
  discoveryFile : Option String
  server : Option String
  config : Option String
  deriving DecidableEq

/-- A question for an inspector. -/
inductive Question where
  | resolve (id : Identifier) (exact asJson : Bool)
  | apiResources
  | get (resource name : String) (ns : Option String)
  | list (resource : String) (ns selector : Option String)

/-- A command. -/
inductive Command where
  | ask (q : Question)
  /-- Serves questions, over lines of text or over HTTP. -/
  | serve (overLines : Bool) (host : Option String) (port : Option Nat)
  /-- Shows the preferred types as a table. -/
  | tabulate
  /-- Redacts a file, or the standard input. -/
  | redact (file : Option String) (showsCounts : Bool)
  | completions (shell : String)

/-- A command with its options. -/
structure Invocation where
  options : GlobalOptions
  command : Command

/-- What the arguments amount to. -/
inductive Request where
  | run (i : Invocation)
  | help
  | version
  /-- The arguments are wrong. -/
  | usage

/-! ## Options -/

/-- The options that stand anywhere. -/
def globalSpecs : List OptionSpec := [.file "discovery-file", .text "server", .file "config"]

/-- The number that a text denotes as a port. -/
def portOfText? (s : String) : Option Nat :=
  let digits :=
    match s.toList with
    | '+' :: rest => rest
    | '-' :: rest => if rest.all (· == '0') then rest else []
    | rest => rest
  if digits.isEmpty || !digits.all Char.isDigit then none
  else
    let n := digits.foldl (fun n c => 10 * n + (c.toNat - 0x30)) 0
    if n < 0x10000 then some n else none

/-- The shells that completions exist for. -/
def shells : List String := ["bash", "elvish", "fish", "powershell", "zsh"]

/-- The options of a command, if there is such a command. -/
def commandSpecs? (command : String) : Option (List OptionSpec) :=
  match command with
  | "resolve" =>
    some [.text "api-version", .text "kind", .text "resource", .text "group", .flag "exact",
      .flag "json"]
  | "redact" => some [.flag "stats"]
  | "api-resources" => some [.flag "json"]
  | "get" =>
    some [{ OptionSpec.text "namespace" with letter := some 'n' },
      { OptionSpec.text "selector" with letter := some 'l' }]
  | "mcp" =>
    some [.flag "stdio", .text "host",
      { OptionSpec.text "port" with accepts := fun s => (portOfText? s).isSome }]
  | "completions" => some []
  | _ => none

/-- The command that its arguments describe. -/
def commandOf? (command : String) (m : Matches) : Option Command :=
  match command, m.operands with
  | "resolve", [] =>
    let id : Identifier :=
      ⟨m.value? "api-version", m.value? "kind", m.value? "resource", m.value? "group"⟩
    some (.ask (.resolve id (m.has "exact") (m.has "json")))
  | "redact", [] => some (.redact none (m.has "stats"))
  | "redact", [file] => if file.isEmpty then none else some (.redact (some file) (m.has "stats"))
  | "api-resources", [] => some (if m.has "json" then .ask .apiResources else .tabulate)
  | "get", [resource] =>
    some (.ask (.list resource (m.value? "namespace") (m.value? "selector")))
  | "get", [resource, name] => some (.ask (.get resource name (m.value? "namespace")))
  | "mcp", [] =>
    some (.serve (m.has "stdio") (m.value? "host") ((m.value? "port").bind portOfText?))
  | "completions", [shell] => if shells.contains shell then some (.completions shell) else none
  | _, _ => none

/-- The commands. -/
def commandNames : List String :=
  ["resolve", "redact", "api-resources", "get", "mcp", "completions", "help"]

/-- The words that complete a command line, one on each line. -/
def completionText : String := String.join (commandNames.map (· ++ "\n"))

/-- How the program is used. -/
def usageText : String :=
  "Usage: probe [--discovery-file FILE] [--server URL] [--config FILE] COMMAND\n\nCommands:\n" ++
    String.join (commandNames.map fun name => "  " ++ name ++ "\n")

/-! ## Reading -/

/-- The global options: those behind the command, those before it, and variables. -/
def globalOptions (before behind : Matches) (v : Variables) : GlobalOptions :=
  let pick (name : String) : Option String := (behind.value? name).or (before.value? name)
  { discoveryFile := (pick "discovery-file").or v.discoveryFile
    server := (pick "server").or v.server
    config := pick "config" }

/-- Whether the variables could stand for options: both before and behind the command, the name of a file
is not empty. -/
def acceptsVariables (before behind : Matches) (v : Variables) : Bool :=
  v.discoveryFile != some "" ||
    ((before.value? "discovery-file").isSome && (behind.value? "discovery-file").isSome)

/-- What the arguments ask for. -/
def Request.ofArguments (arguments : List String) (v : Variables) : Request :=
  match readArguments globalSpecs true true .empty arguments with
  | .help => .help
  | .version => .version
  | .operand before command rest =>
    if command == "help" then
      match rest with
      | [] => .help
      | [command] => if (commandSpecs? command).isSome then .help else .usage
      | _ => .usage
    else
      match commandSpecs? command with
      | none => .usage
      | some specs =>
        match readArguments (globalSpecs ++ specs) false false .empty rest with
        | .help => .help
        | .complete behind =>
          match commandOf? command behind with
          | some found =>
            if acceptsVariables before behind v then
              .run ⟨globalOptions before behind v, found⟩
            else .usage
          | none => .usage
        | _ => .usage
  | _ => .usage

end Periscope.CommandLine
