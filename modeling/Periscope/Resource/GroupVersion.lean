import Periscope.Text.Split

/-!
# Group versions

An API group together with one of its versions. The core group has the empty name and is left out of the
text: `v1` is a version of the core group and `apps/v1` one of the group `apps`.
-/

namespace Periscope

open Text

/-- An API group and a version of it. -/
structure GroupVersion where
  group : String
  version : String
  deriving DecidableEq

namespace GroupVersion

/-- The group version that a text denotes: a version alone, or a group and a version around one slash. -/
def ofText? (text : String) : Option GroupVersion :=
  match splitFirst? '/' text.toList with
  | none => if text.isEmpty then none else some ⟨"", text⟩
  | some (group, version) =>
    if group.isEmpty || version.isEmpty || version.contains '/' then none
    else some ⟨String.ofList group, String.ofList version⟩

/-- The text of a group version. -/
def render (gv : GroupVersion) : String :=
  if gv.group.isEmpty then gv.version else gv.group ++ "/" ++ gv.version

end GroupVersion

end Periscope
