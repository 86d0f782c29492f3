import Periscope.Discovery.Capability
import Periscope.Resolution.Error
import Periscope.Resource.Identifier

/-!
# Exact resolution

A resource word is looked up first and led through its kind back to a type, so that its scope always comes
from discovery. If that misses and a kind is given, the kind is looked up.
-/

namespace Periscope

/-- The group version of an identifier that names one. A text that does not parse is an error. -/
def Identifier.explicitVersion (id : Identifier) : Except ResolveError (Option GroupVersion) :=
  match id.apiVersion? with
  | none => .ok none
  | some raw =>
    match GroupVersion.ofText? raw with
    | some gv => .ok (some gv)
    | none =>
      .error (.invalidInput ("apiVersion " ++ Text.quoted raw ++
        " is not of the form <group>/<version> or <version>"))

/-- What to look up for a resource word. Only without an explicit version is the word split at a dot. -/
def Identifier.lookup (id : Identifier) (gv : Option GroupVersion) (resource : String) :
    PartialResource :=
  match gv with
  | some gv => ⟨some gv.group, some gv.version, resource⟩
  | none =>
    let split := id.normalized
    ⟨split.group?, none, split.resource?.getD resource⟩

namespace Discovery

/-- From a resource word to its type, to the kind of the type, and back to a type. -/
def lookupByResource (d : Discovery) (p : PartialResource) :
    Except DiscoveryError ResolvedResource := do
  let type ← d.resourceFor p
  let kind ← d.kindFor type
  let mapping ← d.restMapping kind.groupKind (some kind.version)
  .ok mapping.resolved

/-- The type of a kind. -/
def lookupByKind (d : Discovery) (id : Identifier) (gv : Option GroupVersion) :
    Except ResolveError ResolvedResource :=
  match id.kind? with
  | none =>
    .error (.invalidInput "either apiVersion and kind, or resource, must be specified")
  | some kind =>
    let group :=
      match gv with
      | some gv => gv.group
      | none => id.normalized.group?.getD ""
    match d.restMapping ⟨group, kind⟩ (gv.map GroupVersion.version) with
    | .ok mapping => .ok mapping.resolved
    | .error e => .error (.ofDiscovery e)

/-- Resolves an identifier by exact look-ups alone. -/
def resolveExact (d : Discovery) (id : Identifier) : Except ResolveError ResolvedResource := do
  let gv ← id.explicitVersion
  match id.resource? with
  | none => d.lookupByKind id gv
  | some resource =>
    match d.lookupByResource (id.lookup gv resource) with
    | .ok resolved => .ok resolved
    | .error (.unavailable reason) => .error (.discoveryUnavailable reason)
    | .error e => if id.kind?.isNone then .error (.ofDiscovery e) else d.lookupByKind id gv

end Discovery

end Periscope
