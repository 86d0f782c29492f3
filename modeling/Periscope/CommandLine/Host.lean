import Periscope.Http.Client

/-!
# Hosts

What the program needs of the system that it runs on.
-/

namespace Periscope.CommandLine

/-- Why a file cannot be read or written. -/
inductive FileError where
  | absent
  | denied
  | alreadyExists
  | notDirectory
  | isDirectory
  /-- The content is no text. -/
  | notText
  | other (reason : String)
  deriving DecidableEq

/-- The text of an error. -/
def FileError.message : FileError → String
  | .absent => "No such file or directory (os error 2)"
  | .denied => "Permission denied (os error 13)"
  | .alreadyExists => "File exists (os error 17)"
  | .notDirectory => "Not a directory (os error 20)"
  | .isDirectory => "Is a directory (os error 21)"
  | .notText => "stream did not contain valid UTF-8"
  | .other reason => reason

/-- A system to run on; `m` is the kind of its actions. -/
structure Host (m : Type → Type) where
  /-- The value of a variable of the environment. -/
  environment : String → m (Option String)
  /-- Whether there is a file or a directory at a path. -/
  isPresent : String → m Bool
  /-- The text of a file. -/
  read : String → m (Except FileError String)
  /-- Writes a text to a new file, and makes the directories on the way to it. -/
  create : String → String → m (Except FileError Unit)
  /-- All of the standard input. -/
  input : m String
  transport : Http.Transport

/-- The variables that the program reads whatever it does. -/
structure Variables where
  discoveryFile : Option String
  server : Option String
  home : Option String
  configDirectory : Option String
  deriving DecidableEq

/-- The variables of a host. -/
def Host.variables {m : Type → Type} [Monad m] (h : Host m) : m Variables := do
  return {
    discoveryFile := ← h.environment "PROBE_DISCOVERY_FILE"
    server := ← h.environment "PROBE_SERVER"
    home := ← h.environment "HOME"
    configDirectory := ← h.environment "XDG_CONFIG_HOME" }

end Periscope.CommandLine
