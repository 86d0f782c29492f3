import Periscope.Text.Split

/-!
# Resource identifiers

What a caller says about the resource type it means. Every part may be missing, and an empty part counts
as missing.
-/

namespace Periscope

open Text

/-- A partial description of a resource type. -/
structure Identifier where
  apiVersion : Option String
  kind : Option String
  resource : Option String
  group : Option String
  deriving DecidableEq

namespace Identifier

/-- The text, unless it is empty. -/
def nonEmpty (part : Option String) : Option String := part.filter fun s => !s.isEmpty

/-- The API version, if it is set. -/
def apiVersion? (id : Identifier) : Option String := nonEmpty id.apiVersion

/-- The kind, if it is set. -/
def kind? (id : Identifier) : Option String := nonEmpty id.kind

/-- The resource word, if it is set. -/
def resource? (id : Identifier) : Option String := nonEmpty id.resource

/-- The group, if it is set. -/
def group? (id : Identifier) : Option String := nonEmpty id.group

/-- Whether no part is set. -/
def isEmpty (id : Identifier) : Bool :=
  id.apiVersion?.isNone && id.kind?.isNone && id.resource?.isNone && id.group?.isNone

/-- Splits a resource word such as `deployments.apps` at its first dot into the word and the group, unless
a group is set. -/
def normalized (id : Identifier) : Identifier :=
  if id.group?.isSome then id
  else
    match id.resource?.bind fun r => splitFirst? '.' r.toList with
    | some (name, group) =>
      { id with resource := some (String.ofList name), group := some (String.ofList group) }
    | none => id

/-- The parts that are set, in braces. -/
def render (id : Identifier) : String :=
  let part (label : String) (value : Option String) : List String :=
    (value.map fun v => label ++ "=" ++ v).toList
  let parts := part "apiVersion" id.apiVersion? ++ part "kind" id.kind? ++
    part "resource" id.resource? ++ part "group" id.group?
  "\x7B" ++ ", ".intercalate parts ++ "\x7D"

end Identifier

end Periscope
