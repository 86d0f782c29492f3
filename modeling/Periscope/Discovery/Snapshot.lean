import Periscope.Digest.Blake3
import Periscope.Discovery.Capability

/-!
# Snapshots of the API surface

The resource lists as they stood at one time. The first list of a group is the preferred version of the
group. Lists whose group version does not parse are kept but never looked up.
-/

namespace Periscope

/-- Sorts texts by their characters. -/
def sortTexts (texts : List String) : List String := texts.mergeSort fun a b => !decide (b < a)

/-- The resource lists at one time. -/
structure Snapshot where
  lists : List ResourceList
  /-- The group versions that could not be read, each with the reason, by ascending group version. -/
  failedGroups : List (String × String)
  deriving DecidableEq

namespace Snapshot

/-- The number of entries. -/
def resourceCount (s : Snapshot) : Nat := (s.lists.flatMap (·.resources)).length

/-- The lists whose group version parses. -/
def parsedLists (s : Snapshot) : List (GroupVersion × ResourceList) :=
  s.lists.filterMap fun l => l.parsed?.map fun gv => (gv, l)

/-- Keeps the first item for each group. -/
def firstPerGroup {α : Type} (group : α → String) (items : List α) : List α :=
  go [] items
where
  go (seen : List String) : List α → List α
    | [] => []
    | x :: rest =>
      if seen.contains (group x) then go seen rest else x :: go (group x :: seen) rest

/-! ## Look-ups -/

/-- The first proper type of a list with the given plural or singular name. -/
def entryFor? (l : ResourceList) (word : String) : Option ResourceEntry :=
  l.resources.find? fun e => !e.isSubresource && (e.name == word || e.singularName == word)

/-- The types that a resource word means, the first one of each group. -/
def resourceHits (s : Snapshot) (p : PartialResource) : List GroupVersionResource :=
  let wanted := s.parsedLists.filter fun (gv, _) =>
    p.group.all (· == gv.group) && p.version.all (· == gv.version)
  firstPerGroup GroupVersionResource.group <|
    wanted.filterMap fun (gv, l) =>
      (entryFor? l p.resource).map fun e => ⟨gv.group, gv.version, e.name⟩

/-- The type that a resource word means; types of several groups make it ambiguous. -/
def resourceFor (s : Snapshot) (p : PartialResource) :
    Except DiscoveryError GroupVersionResource :=
  match s.resourceHits p with
  | [] => .error (.notFound p.render)
  | [hit] => .ok hit
  | hits => .error (.ambiguous p.render (sortTexts (hits.map GroupVersionResource.render)))

/-- The kind of the objects of a type. -/
def kindFor (s : Snapshot) (r : GroupVersionResource) : Except DiscoveryError GroupVersionKind :=
  let entries := (s.parsedLists.filter fun (gv, _) => gv == r.groupVersion).flatMap
    fun (_, l) => l.resources
  match entries.find? fun e => e.name == r.resource with
  | some e => .ok ⟨r.group, r.version, e.kind⟩
  | none => .error (.notFound ("resource " ++ r.render))

/-- The description of a kind and a version that are looked for. -/
def describeKind (k : GroupKind) (version : Option String) : String :=
  "kind " ++ k.render ++
    match version with
    | some v => " at version " ++ Text.quoted v
    | none => ""

/-- The first type whose objects have a kind. -/
def restMapping (s : Snapshot) (k : GroupKind) (version : Option String) :
    Except DiscoveryError RestMapping :=
  let found := s.parsedLists.findSome? fun (gv, l) =>
    if gv.group == k.group && version.all (· == gv.version) then
      (l.resources.find? fun e => !e.isSubresource && e.kind == k.kind).map fun e =>
        { resource := ⟨gv.group, gv.version, e.name⟩
          kind := ⟨gv.group, gv.version, e.kind⟩
          namespaced := e.namespaced : RestMapping }
    else none
  match found with
  | some m => .ok m
  | none => .error (.notFound (describeKind k version))

/-- The preferred version of every group. -/
def preferred (s : Snapshot) : PreferredResources :=
  { lists := (firstPerGroup (fun (gv, _) => gv.group) s.parsedLists).map Prod.snd
    failedGroups := s.failedGroups }

/-- The snapshot as a discovery capability. -/
def discovery (s : Snapshot) : Discovery :=
  { resourceFor := s.resourceFor
    kindFor := s.kindFor
    restMapping := s.restMapping
    preferred := .ok s.preferred }

/-! ## Fingerprints -/

/-- The bytes of an entry in the fingerprint: name, kind and scope, each ended by a zero. -/
def entryBytes (e : ResourceEntry) : List UInt8 :=
  e.name.toUTF8.data.toList ++ [0] ++ e.kind.toUTF8.data.toList ++
    [if e.namespaced then 1 else 0, 0]

/-- The bytes of a list in the fingerprint: the group version ended by a zero, the entries, and a one. -/
def listBytes (l : ResourceList) : List UInt8 :=
  l.groupVersion.toUTF8.data.toList ++ [0] ++ l.resources.flatMap entryBytes ++ [1]

/-- The bytes that are hashed into the fingerprint. -/
def fingerprintBytes (lists : List ResourceList) : List UInt8 := lists.flatMap listBytes

/-- The hash of the API surface. -/
def fingerprint (s : Snapshot) : String := Blake3.hexHash (fingerprintBytes s.lists)

end Snapshot

end Periscope
