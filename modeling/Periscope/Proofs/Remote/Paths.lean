import Periscope.Proofs.Remote.Collections
import Periscope.Proofs.Resolution.Reports
import Periscope.Remote.Discovery

/-!
# Paths of queries

The path of a query begins with the path under which discovery reads the resource list of its type, and it tells the
type, the namespace and the name, as long as these are single segments. That no part of the type holds a slash comes
from the snapshot that gives it. Main result: `path_tells_query`.
-/

namespace Periscope

open Http.Url Remote

/-! ## Types of a snapshot -/

/-- A resolution in the snapshot, or a look-up of a kind, gives the type. -/
inductive Snapshot.Gives (s : Snapshot) : ResolvedResource → Prop
  | exact {id : Identifier} {r : ResolvedResource} : s.discovery.resolveExact id = .ok r → s.Gives r
  | bestEffort {id : Identifier} {r : ResolvedResource} : s.discovery.resolveBestEffort id = .ok r → s.Gives r
  | kind {k : GroupKind} {version : Option String} {m : RestMapping} :
      s.restMapping k version = .ok m → s.Gives m.resolved

namespace Snapshot

variable {s : Snapshot} {r : ResolvedResource}

theorem Gives.exists_lists (h : s.Gives r) : ∃ e, s.Lists r e := by
  cases h with
  | exact h =>
    obtain ⟨e, hlists, -⟩ := resolveExact_sound h
    exact ⟨e, hlists⟩
  | bestEffort h =>
    rcases Discovery.resolveBestEffort_ok h with h | ⟨-, h⟩
    · obtain ⟨e, hlists, -⟩ := resolveExact_sound h
      exact ⟨e, hlists⟩
    · obtain ⟨gv, e, he, -, -, rfl⟩ := scan_ok h
      exact ⟨e, lists_of_mem_typesOf he⟩
  | kind h =>
    obtain ⟨gv, e, -, -, he, rfl⟩ := restMapping_ok h
    exact ⟨e, lists_of_mem_typesOf (List.mem_of_find?_eq_some he)⟩

theorem Gives.readable (h : s.Gives r) : r.type.Readable := by
  obtain ⟨e, ⟨l, hl, hgv, he⟩, hproper, hname, -⟩ := h.exists_lists
  exact readable_of_mem_typesOf (mem_typesOf.2 ⟨l, hl, hgv, he, hproper⟩) hname

end Snapshot

theorem GroupVersionResource.Readable.notMem_slash {t : GroupVersionResource} (h : t.Readable) :
    ∀ part ∈ [t.group, t.version, t.resource], '/' ∉ part.toList := by
  obtain ⟨hgroup, hversion⟩ := GroupVersion.notMem_slash_of_ofText? h.1
  simp only [List.forall_mem_cons]
  exact ⟨hgroup, hversion, h.2, by simp⟩

/-! ## Paths -/

namespace ResourceQuery

/-- The namespace and the name of the query hold no slash. -/
def Slashless (q : ResourceQuery) : Prop :=
  (∀ ns ∈ q.ns?, '/' ∉ ns.toList) ∧ ∀ name ∈ q.name?, '/' ∉ name.toList

variable {q q' : ResourceQuery}

theorem slash_intercalate {parts : List (List Char)} (h : parts ≠ []) :
    '/' :: ['/'].intercalate parts = parts.flatMap ('/' :: ·) := by
  induction parts with
  | nil => exact absurd rfl h
  | cons first rest ih =>
    cases rest with
    | nil => simp
    | cons second rest => simp [← ih (List.cons_ne_nil _ _)]

theorem toList_path (q : ResourceQuery) : q.path.toList = (q.segments.map String.toList).flatMap ('/' :: ·) := by
  obtain ⟨first, rest, cons, -⟩ := q.exists_segments_eq_cons
  rw [← slash_intercalate (by simp [cons])]
  simp [path]

/-- The root of a type is the path of the resource list of its group version. -/
theorem toList_groupVersionPath {type : GroupVersionResource} (free : '/' ∉ type.version.toList) :
    (groupVersionPath type.groupVersion.render).toList =
      ((rootSegments type).map String.toList).flatMap ('/' :: ·) := by
  rcases rootSegments_cases type with ⟨core, root⟩ | ⟨named, root⟩
  · simp [groupVersionPath, GroupVersionResource.groupVersion, GroupVersion.render, root, core, free]
  · simp [groupVersionPath, GroupVersionResource.groupVersion, GroupVersion.render, root, named]

theorem path_eq (free : '/' ∉ q.resource.type.version.toList) :
    q.path = groupVersionPath q.resource.type.groupVersion.render ++ q.ns?.elim "" ("/namespaces/" ++ ·) ++ "/" ++
      q.resource.type.resource ++ q.name?.elim "" ("/" ++ ·) := by
  apply String.toList_injective
  rw [toList_path, segments_eq, List.map_append, List.flatMap_append, ← toList_groupVersionPath free]
  cases q.ns? <;> cases q.name? <;> simp

theorem notMem_slash_of_mem_segments (type : q.resource.type.Readable) (free : q.Slashless) :
    ∀ text ∈ q.segments, '/' ∉ text.toList := by
  intro text mem
  rcases mem_segments mem with fixed | part | ns | name
  · have free : ∀ text ∈ ["api", "apis", "namespaces"], '/' ∉ text.toList := by decide
    exact free text fixed
  · exact type.notMem_slash text part
  · exact free.1 text ns
  · exact free.2 text name

/-- Between slashes, segments without slashes can be told apart. -/
theorem segments_eq_of_path_eq (type : q.resource.type.Readable) (type' : q'.resource.type.Readable)
    (free : q.Slashless) (free' : q'.Slashless) (same : q.path = q'.path) : q.segments = q'.segments := by
  have texts := congrArg String.toList same
  rw [toList_path, toList_path] at texts
  have parts := flatMap_slash_inj (List.forall_mem_map.2 (notMem_slash_of_mem_segments type free))
    (List.forall_mem_map.2 (notMem_slash_of_mem_segments type' free')) texts
  exact (List.map_inj_right fun _ _ => String.toList_inj.1).1 parts

end ResourceQuery

/-- The path of a query for a type of a snapshot is that of the resource list which lists the type, with the namespace,
the type and the name behind it. Two such queries, perhaps for types of two snapshots, have one path only if they are
for one type, one namespace and one name, where the namespaces and names hold no slash. -/
theorem path_tells_query :
    (∀ (s : Snapshot) (q : ResourceQuery), s.Gives q.resource → (∃ e, s.Lists q.resource e) ∧
      ∀ l ∈ s.lists, l.parsed? = some q.resource.type.groupVersion →
        q.path = groupVersionPath l.groupVersion ++ q.ns?.elim "" ("/namespaces/" ++ ·) ++ "/" ++
          q.resource.type.resource ++ q.name?.elim "" ("/" ++ ·)) ∧
    ∀ (s s' : Snapshot) (q q' : ResourceQuery), s.Gives q.resource → s'.Gives q'.resource →
      q.Slashless → q'.Slashless → q.path = q'.path →
      q.resource.type = q'.resource.type ∧ q.ns? = q'.ns? ∧ q.name? = q'.name? := by
  refine ⟨fun s q given => ⟨given.exists_lists, fun l _ parsed => ?_⟩, fun s s' q q' given given' free free' same => ?_⟩
  · have version := given.readable.notMem_slash q.resource.type.version (by simp)
    rw [← GroupVersion.render_of_ofText? parsed]
    exact q.path_eq version
  · have segments := ResourceQuery.segments_eq_of_path_eq given.readable given'.readable free free' same
    exact ResourceQuery.segments_inj segments

/-- A type with the name of the word before a namespace, next to one that lives in namespaces. -/
def namespaceTypes : Snapshot :=
  { lists :=
      [⟨"v1", [⟨"namespaces", "namespace", false, "Namespace", ["ns"], []⟩, ⟨"pods", "pod", true, "Pod", ["po"], []⟩]⟩]
    failedGroups := [] }

/-- A namespace that is read, and the pods in it. -/
theorem path_tells_query_namespaces :
    namespaceTypes.Gives ⟨⟨"", "v1", "namespaces"⟩, false⟩ ∧ namespaceTypes.Gives ⟨⟨"", "v1", "pods"⟩, true⟩ ∧
      ResourceQuery.path ⟨⟨⟨"", "v1", "namespaces"⟩, false⟩, none, some "pods", none⟩ =
        groupVersionPath "v1" ++ "" ++ "/" ++ "namespaces" ++ ("/" ++ "pods") ∧
      ResourceQuery.path ⟨⟨⟨"", "v1", "namespaces"⟩, false⟩, none, some "pods", none⟩ ≠
        ResourceQuery.path ⟨⟨⟨"", "v1", "pods"⟩, true⟩, some "pods", none, none⟩ := by
  obtain ⟨path, tells⟩ := path_tells_query
  have exact' : namespaceTypes.discovery.resolveExact ⟨some "v1", none, some "namespaces", none⟩ =
    .ok ⟨⟨"", "v1", "namespaces"⟩, false⟩ := by rfl
  have best : namespaceTypes.discovery.resolveBestEffort ⟨none, none, some "po", none⟩ =
    .ok ⟨⟨"", "v1", "pods"⟩, true⟩ := by rfl
  have space := Snapshot.Gives.exact exact'
  have pods := Snapshot.Gives.bestEffort best
  have collection := (path _ ⟨_, none, some "pods", none⟩ space).2 ⟨"v1", _⟩ List.mem_cons_self (by rfl)
  refine ⟨space, pods, collection, fun same => ?_⟩
  have free : ResourceQuery.Slashless ⟨⟨⟨"", "v1", "namespaces"⟩, false⟩, none, some "pods", none⟩ := by
    simp [ResourceQuery.Slashless]
  have free' : ResourceQuery.Slashless ⟨⟨⟨"", "v1", "pods"⟩, true⟩, some "pods", none, none⟩ := by
    simp [ResourceQuery.Slashless]
  exact absurd (tells _ _ _ _ space pods free free' same).2.1 nofun

end Periscope
