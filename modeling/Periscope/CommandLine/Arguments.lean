/-!
# Arguments

The arguments of one command: options with a value, flags, and operands. A value stands behind an equals
sign or is the next argument; a text with a dash at its front is never taken for a value of its own, a single
dash is. Behind two dashes all is operands.
-/

namespace Periscope.CommandLine

/-- An option. -/
structure OptionSpec where
  name : String
  /-- The letter that may stand for the name. -/
  letter : Option Char
  takesValue : Bool
  /-- Whether a text may be its value. -/
  accepts : String → Bool

/-- An option with any text as its value. -/
def OptionSpec.text (name : String) : OptionSpec := ⟨name, none, true, fun _ => true⟩

/-- An option with the path of a file as its value. -/
def OptionSpec.file (name : String) : OptionSpec := ⟨name, none, true, fun s => !s.isEmpty⟩

/-- An option without a value. -/
def OptionSpec.flag (name : String) : OptionSpec := ⟨name, none, false, fun _ => true⟩

/-- What the arguments of a command give. -/
structure Matches where
  flags : List String
  values : List (String × String)
  operands : List String
  deriving DecidableEq

namespace Matches

/-- Nothing given. -/
def empty : Matches := ⟨[], [], []⟩

/-- Whether a flag is given. -/
def has (m : Matches) (name : String) : Bool := m.flags.contains name

/-- The value of an option. -/
def value? (m : Matches) (name : String) : Option String := m.values.lookup name

/-- Adds a flag; giving one twice is an error. -/
def addFlag (m : Matches) (name : String) : Option Matches :=
  if m.has name then none else some { m with flags := name :: m.flags }

/-- Adds the value of an option; giving an option twice is an error. -/
def addValue (m : Matches) (spec : OptionSpec) (value : String) : Option Matches :=
  if (m.value? spec.name).isSome || !spec.accepts value then none
  else some { m with values := (spec.name, value) :: m.values }

/-- Adds an operand. -/
def addOperand (m : Matches) (operand : String) : Matches :=
  { m with operands := m.operands ++ [operand] }

end Matches

/-- How the reading of arguments ends. -/
inductive Reading where
  | complete (m : Matches)
  /-- An operand comes that ends the options of the program. -/
  | operand (m : Matches) (first : String) (rest : List String)
  | help
  | version
  | wrong

/-- Whether a text could be an option. -/
def looksLikeOption (s : String) : Bool := s.startsWith "-" && s != "-"

/-- An argument, seen as an option. -/
inductive Shape where
  /-- Two dashes alone. -/
  | separator
  | long (name : String) (value : Option String)
  /-- A letter and what follows it. -/
  | short (letter : Char) (rest : List Char)
  | operand

/-- What an argument is by its form. -/
def Shape.ofArgument (s : String) : Shape :=
  match s.toList with
  | ['-', '-'] => .separator
  | '-' :: '-' :: rest =>
    let value := (rest.dropWhile (· != '=')).drop 1
    .long (String.ofList (rest.takeWhile (· != '=')))
      (if rest.contains '=' then some (String.ofList value) else none)
  | '-' :: letter :: rest => .short letter rest
  | _ => .operand

/-- The value that stands right behind a letter, where an equals sign does not count. -/
def attachedValue : List Char → Option String
  | [] => none
  | '=' :: rest => some (String.ofList rest)
  | rest => some (String.ofList rest)

/-- What one argument does. -/
inductive Effect where
  /-- It is taken. -/
  | taken (m : Matches)
  /-- It is taken together with the argument behind it. -/
  | takenWithNext (m : Matches)
  | separator
  | operand
  | help
  | version
  | wrong

/-- The effect of an outcome that may be wrong. -/
def Effect.ofMatches (use : Matches → Effect) : Option Matches → Effect
  | some m => use m
  | none => .wrong

/-- The effect of an option with a value, which is attached to it or comes next. -/
def valueEffect (m : Matches) (spec : OptionSpec) (attached next : Option String) : Effect :=
  match attached, next with
  | some value, _ => .ofMatches .taken (m.addValue spec value)
  | none, some value =>
    if looksLikeOption value then .wrong else .ofMatches .takenWithNext (m.addValue spec value)
  | none, none => .wrong

/-- The effect of an argument, given the one behind it. `hasVersion` says that the program tells its version
here. -/
def effect (specs : List OptionSpec) (hasVersion : Bool) (m : Matches) (argument : String)
    (next : Option String) : Effect :=
  match Shape.ofArgument argument with
  | .separator => .separator
  | .operand => .operand
  | .long name value =>
    match specs.find? (·.name == name) with
    | some spec =>
      if spec.takesValue then valueEffect m spec value next
      else if value.isSome then .wrong
      else .ofMatches .taken (m.addFlag name)
    | none =>
      if value.isSome then .wrong
      else if name == "help" then .help
      else if name == "version" && hasVersion then .version
      else .wrong
  | .short letter attached =>
    match specs.find? (·.letter == some letter) with
    | some spec => valueEffect m spec (attachedValue attached) next
    | none =>
      if letter == 'h' then .help
      else if letter == 'V' && hasVersion then .version
      else .wrong

/-- Reads arguments. `stops` says that the first operand ends the reading. -/
def readArguments (specs : List OptionSpec) (stops hasVersion : Bool) (m : Matches) :
    List String → Reading
  | [] => .complete m
  | argument :: rest =>
    match effect specs hasVersion m argument rest.head? with
    | .taken m => readArguments specs stops hasVersion m rest
    | .takenWithNext m =>
      match rest with
      | _ :: rest => readArguments specs stops hasVersion m rest
      | [] => .wrong
    | .separator => if stops then .wrong else .complete { m with operands := m.operands ++ rest }
    | .operand =>
      if stops then .operand m argument rest
      else readArguments specs stops hasVersion (m.addOperand argument) rest
    | .help => .help
    | .version => .version
    | .wrong => .wrong

end Periscope.CommandLine
