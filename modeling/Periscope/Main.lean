import Periscope.CommandLine.Program

/-!
# The executable

The program on the system that it is started on. The system gives files, variables and the standard streams;
a network is not among them, so that every server is out of reach.
-/

namespace Periscope

open CommandLine

/-- The cause that an error of the system stands for. -/
def fileErrorOf : IO.Error → FileError
  | .noFileOrDirectory .. => .absent
  | .permissionDenied .. => .denied
  | .alreadyExists .. => .alreadyExists
  | e => .other (toString e)

/-- An action on files with its error as a value. -/
def caught {α : Type} (action : IO α) : IO (Except FileError α) := do
  match ← action.toBaseIO with
  | .ok a => return .ok a
  | .error e => return .error (fileErrorOf e)

/-- The directory that a path leads through, if it names one. -/
def directoryOf? (path : String) : Option String :=
  match (path.splitOn "/").dropLast with
  | [] => none
  | parts => some ("/".intercalate parts)

/-- The system that the program is started on. -/
def system : Host IO :=
  { environment := fun name => IO.getEnv name
    isPresent := fun path => do
      match ← caught (IO.FS.Handle.mk path .read) with
      | .error .absent => return false
      | _ => return true
    read := fun path => caught (IO.FS.readFile path)
    create := fun path text => caught do
      match directoryOf? path with
      | some directory => IO.FS.createDirAll directory
      | none => pure ()
      IO.FS.writeFile path text
    input := do (← IO.getStdin).readToEnd
    transport := fun _ _ => none }

/-- Answers the lines of the standard input, each as it comes. -/
partial def serve (i : Inspector) (session : Session) : IO Unit := do
  let line ← (← IO.getStdin).getLine
  if line.isEmpty then return
  let (response, session) := (Mcp.respondToLine i line).run session
  match response with
  | some r =>
    let output ← IO.getStdout
    output.putStr (r.toJson.compact ++ "\n")
    output.flush
  | none => pure ()
  serve i session

end Periscope

open Periscope CommandLine in
/-- Runs the program, and ends with its status. -/
def main (arguments : List String) : IO UInt32 := do
  match ← program system arguments with
  | .finished r =>
    IO.print r.output
    IO.eprint r.errors
    return r.status.toUInt32
  | .serveLines i session =>
    serve i session
    return 0
  | .listen host port _ _ =>
    IO.eprintln s!"Starting MCP server on {host}:{port}"
    IO.eprintln "Error: no network to listen on"
    return 1
