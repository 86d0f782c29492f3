import Periscope.Discovery.Snapshot
import Periscope.Resolution.Exact

/-!
# Best-effort resolution

Exact look-ups come first; where they miss, the preferred version of every group is scanned. Several types
that fit are reported and never settled by precedence.
-/

namespace Periscope

/-- An entry that fits an identifier. -/
structure Candidate where
  resolved : ResolvedResource
  /-- The group version as the list writes it. -/
  groupVersion : String
  deriving DecidableEq

/-- The text `<groupVersion>/<resource>`. -/
def Candidate.label (c : Candidate) : String :=
  c.groupVersion ++ "/" ++ c.resolved.type.resource

namespace Identifier

/-- Whether an entry fits. A resource word takes precedence over the kind. -/
def fits (id : Identifier) (e : ResourceEntry) : Bool :=
  !e.isSubresource &&
    match id.resource?, id.kind? with
    | some word, _ => e.answersTo word
    | none, some kind => e.kind == kind
    | none, none => false

/-- The candidates of one list. -/
def listCandidates (id : Identifier) (l : ResourceList) : List Candidate :=
  match l.parsed? with
  | none => []
  | some gv =>
    if id.group?.all (· == gv.group) then
      (l.resources.filter id.fits).map fun e =>
        ⟨⟨⟨gv.group, gv.version, e.name⟩, e.namespaced⟩, l.groupVersion⟩
    else []

/-- Keeps the first candidate for each type. -/
def firstPerType (candidates : List Candidate) : List Candidate :=
  candidates.foldl
    (fun kept c =>
      if kept.any fun k => k.resolved.type == c.resolved.type then kept else kept ++ [c])
    []

/-- The types of the lists that fit. -/
def candidates (id : Identifier) (lists : List ResourceList) : List Candidate :=
  firstPerType (lists.flatMap id.listCandidates)

/-- The description of what is looked for. -/
def what (id : Identifier) : String :=
  match id.resource?, id.kind? with
  | some resource, _ => "resource " ++ Text.quoted resource
  | none, some kind => "kind " ++ Text.quoted kind
  | none, none => id.render

/-- The only candidate; none and several are errors. -/
def choose (id : Identifier) : List Candidate → Except ResolveError ResolvedResource
  | [] => .error (.notFound id.what)
  | [c] => .ok c.resolved
  | cs => .error (.ambiguous id.what (sortTexts (cs.map Candidate.label)))

/-- Whether a failed exact resolution is final. An explicit version is a precise request, with nothing to
guess when it fails. -/
def isFinal (id : Identifier) : ResolveError → Bool
  | .discoveryUnavailable _ => true
  | .invalidInput _ => true
  | _ => id.apiVersion?.isSome

end Identifier

namespace Discovery

/-- Scans the preferred versions for an identifier. -/
def scan (d : Discovery) (id : Identifier) : Except ResolveError ResolvedResource :=
  if id.kind?.isNone && id.resource?.isNone then
    .error (.invalidInput "at least one of kind or resource must be specified")
  else
    match d.preferred with
    | .ok preferred => id.choose (id.candidates preferred.lists)
    | .error e => .error (.ofDiscovery e)

/-- Resolves an identifier from whatever it tells. -/
def resolveBestEffort (d : Discovery) (id : Identifier) : Except ResolveError ResolvedResource :=
  let id := id.normalized
  if id.apiVersion?.isSome || id.resource?.isSome then
    match d.resolveExact id with
    | .ok resolved => .ok resolved
    | .error e => if id.isFinal e then .error e else d.scan id
  else d.scan id

end Discovery

end Periscope
