import Periscope.Proofs.Http.Segments
import Periscope.Proofs.Inspection.Queries
import Periscope.Remote.Objects

/-!
# Requests and their collections

The request for a query names its collection and its object segment by segment, and no other query has the same
request, as long as no tab and no line end stands in a segment. With one, a name that passes the inspector can
lead out of its collection.
-/

namespace Periscope

open Http Http.Url

namespace ResourceQuery

/-- An inspector can send the query: no part of its type is a step, and its names are single segments. -/
structure Sendable (q : ResourceQuery) : Prop where
  type : ∀ part ∈ [q.resource.type.group, q.resource.type.version, q.resource.type.resource],
    part ≠ "." ∧ part ≠ ".."
  ns : ∀ ns, q.ns? = some ns → Inspector.isSegment ns
  name : ∀ name, q.name? = some name → Inspector.isSegment name

/-- No tab and no line end stands in a segment of the query. -/
def Clean (q : ResourceQuery) : Prop := ∀ text ∈ q.segments, Url.Clean text.toList

instance (q : ResourceQuery) : Decidable q.Clean :=
  decidable_of_iff (q.segments.all fun text => decide (Url.Clean text.toList)) (by simp [Clean])

variable {q q' : ResourceQuery}

/-- What an inspector asks for a request is such a query. -/
theorem Sendable.of_request {resource : ResolvedResource} {request : Inspector.Request}
    (type : ∀ part ∈ [resource.type.group, resource.type.version, resource.type.resource],
      part ≠ "." ∧ part ≠ "..")
    (named : ∀ e, ¬ request.Misnamed e) : (request.query resource).Sendable where
  type := by cases request <;> exact type
  ns _ here := Inspector.isSegment_iff.2 (Inspector.singleSegment_of_query named (.inr here))
  name _ here := Inspector.isSegment_iff.2 (Inspector.singleSegment_of_query named (.inl here))

theorem not_isStep {text : String} (h : text ≠ "." ∧ text ≠ "..") : ¬ IsStep text.toList := by
  rintro (step | step)
  · exact h.1 (String.toList_inj.1 step)
  · exact h.2 (String.toList_inj.1 step)

theorem not_isStep_of_isSegment {text : String} (h : Inspector.isSegment text) : ¬ IsStep text.toList := by
  simp only [Inspector.isSegment, Bool.and_eq_true, bne_iff_ne] at h
  exact not_isStep ⟨h.1.1.2, h.1.2⟩

theorem rootSegments_cases (type : GroupVersionResource) :
    type.group = "" ∧ rootSegments type = ["api", type.version] ∨
      type.group ≠ "" ∧ rootSegments type = ["apis", type.group, type.version] := by
  by_cases core : type.group = "" <;> simp [rootSegments, core]

theorem segments_eq (q : ResourceQuery) :
    q.segments = rootSegments q.resource.type ++ ((q.ns?.map fun ns => ["namespaces", ns]).getD [] ++
      q.resource.type.resource :: q.name?.toList) := by
  unfold segments
  cases q.ns? <;> simp

/-- There is a first segment, and it is not empty. -/
theorem exists_segments_eq_cons (q : ResourceQuery) : ∃ first rest, q.segments = first :: rest ∧ first ≠ "" := by
  rcases rootSegments_cases q.resource.type with ⟨-, root⟩ | ⟨-, root⟩ <;> rw [segments_eq, root]
  · exact ⟨"api", _, rfl, by decide⟩
  · exact ⟨"apis", _, rfl, by decide⟩

theorem mem_segments {text : String} (h : text ∈ q.segments) :
    text ∈ ["api", "apis", "namespaces"] ∨
      text ∈ [q.resource.type.group, q.resource.type.version, q.resource.type.resource] ∨
      q.ns? = some text ∨ q.name? = some text := by
  rw [segments_eq] at h
  rcases rootSegments_cases q.resource.type with ⟨-, root⟩ | ⟨-, root⟩ <;> rw [root] at h <;>
    cases ns : q.ns? <;> simp [ns] at h ⊢ <;> tauto

theorem Sendable.straight (h : q.Sendable) : ∀ text ∈ q.segments, ¬ IsStep text.toList := by
  intro text mem
  rcases mem_segments mem with fixed | part | ns | name
  · have straight : ∀ text ∈ ["api", "apis", "namespaces"], text ≠ "." ∧ text ≠ ".." := by decide
    exact not_isStep (straight text fixed)
  · exact not_isStep (h.type text part)
  · exact not_isStep_of_isSegment (h.ns text ns)
  · exact not_isStep_of_isSegment (h.name text name)

theorem rootSegments_append_inj {type type' : GroupVersionResource} {rest rest' : List String}
    (h : rootSegments type ++ rest = rootSegments type' ++ rest') :
    type.group = type'.group ∧ type.version = type'.version ∧ rest = rest' := by
  rcases rootSegments_cases type with ⟨core, root⟩ | ⟨-, root⟩ <;>
    rcases rootSegments_cases type' with ⟨core', root'⟩ | ⟨-, root'⟩ <;> rw [root, root'] at h
  · simpa [core, core'] using h
  · simp at h
  · simp at h
  · simpa using h

/-- The segments tell the type, the namespace and the name: how many there are tells which of them are given. -/
theorem segments_inj (h : q.segments = q'.segments) :
    q.resource.type = q'.resource.type ∧ q.ns? = q'.ns? ∧ q.name? = q'.name? := by
  rw [segments_eq, segments_eq] at h
  obtain ⟨group, version, rest⟩ := rootSegments_append_inj h
  have tail : q.resource.type.resource = q'.resource.type.resource ∧ q.ns? = q'.ns? ∧ q.name? = q'.name? := by
    generalize q.ns? = ns, q.name? = name, q.resource.type.resource = word at rest ⊢
    generalize q'.ns? = ns', q'.name? = name', q'.resource.type.resource = word' at rest ⊢
    cases ns <;> cases ns' <;> cases name <;> cases name' <;> simp at rest ⊢ <;> tauto
  refine ⟨?_, tail.2⟩
  calc q.resource.type
    _ = ⟨q.resource.type.group, q.resource.type.version, q.resource.type.resource⟩ := rfl
    _ = q'.resource.type := by rw [group, version, tail.1]

end ResourceQuery

namespace Remote.ObjectServer

variable {s : ObjectServer} {list : List (List Char)} {q q' : ResourceQuery} {u u' : Url}

/-- The URL of the query has the path of the base, without an empty segment at its end, and behind it one segment
for each one of the query, which stands for its bytes. -/
def Keeps (s : ObjectServer) (list : List (List Char)) (q : ResourceQuery) : Prop :=
  ∃ u tail, s.url q = .ok u ∧ u.path = .segments (trimmed list ++ tail) ∧ Spells tail q.segments

theorem url_eq_ok_iff :
    s.url q = .ok u ↔ s.base.extended? q.segments (selectorQuery q.selector?) = some u := by
  unfold url
  cases s.base.extended? q.segments (selectorQuery q.selector?) <;> simp

theorem keeps_iff (path : s.base.path = .segments list) (sendable : q.Sendable) :
    s.Keeps list q ↔ q.Clean ∧ list ≠ [[], []] := by
  have straight := sendable.straight
  obtain ⟨first, texts, cons, nonempty⟩ := q.exists_segments_eq_cons
  simp only [Keeps, url_eq_ok_iff, ResourceQuery.Clean, cons] at straight ⊢
  exact extended?_spells_iff path nonempty straight

theorem path_of_clean (path : s.base.path = .segments list) (sendable : q.Sendable) (clean : q.Clean)
    (found : s.url q = .ok u) :
    u.path = .segments (root list ++
      (q.segments.map String.toList).map (percentEncode (inSegment (isSpecial s.base.scheme)))) := by
  have straight := sendable.straight
  obtain ⟨first, texts, cons, nonempty⟩ := q.exists_segments_eq_cons
  simp only [url_eq_ok_iff, ResourceQuery.Clean, cons] at straight clean found ⊢
  rw [extended?_of_clean path nonempty straight clean] at found
  exact Option.some.inj found ▸ rfl

theorem segments_of_target (path : s.base.path = .segments list) (sendable : q.Sendable) (sendable' : q'.Sendable)
    (clean : q.Clean) (clean' : q'.Clean) (found : s.url q = .ok u) (found' : s.url q' = .ok u')
    (same : u.target = u'.target) : q.segments = q'.segments := by
  have texts := target_inj (path_of_clean path sendable clean found) (path_of_clean path sendable' clean' found') same
  exact (List.map_inj_right fun _ _ => String.toList_inj.1).1 texts

/-- Queries that differ in tabs and line ends alone share a URL. -/
theorem url_eq_of_filter_eq (sendable : q.Sendable) (sendable' : q'.Sendable) (selector : q.selector? = q'.selector?)
    (same : (q.segments.map String.toList).map (·.filter fun c => !isIgnored c) =
      (q'.segments.map String.toList).map (·.filter fun c => !isIgnored c)) :
    s.url q = s.url q' := by
  have path (start : List (List Char)) := foldl_addSegment_congr (isSpecial s.base.scheme) start
    (List.forall_mem_map.2 sendable.straight) (List.forall_mem_map.2 sendable'.straight) same
  simp only [url, extended?, path, selector]

/-- A server requests each query below its base exactly if no tab and no line end stands in a segment of the query
and the base is not of two empty segments. So queries without tabs and line ends whose requests have one target
are for one object, or for one collection. The queries that an inspector makes of its requests are such queries, unless
it refuses a name. -/
theorem url_keeps_iff (path : s.base.path = .segments list) :
    (∀ q : ResourceQuery, q.Sendable → (s.Keeps list q ↔ q.Clean ∧ list ≠ [[], []])) ∧
      (∀ (q q' : ResourceQuery) (u u' : Url), q.Sendable → q'.Sendable → q.Clean → q'.Clean →
        s.url q = .ok u → s.url q' = .ok u' → u.target = u'.target →
          q.resource.type = q'.resource.type ∧ q.ns? = q'.ns? ∧ q.name? = q'.name?) ∧
      ∀ (resource : ResolvedResource) (request : Inspector.Request),
        (∀ part ∈ [resource.type.group, resource.type.version, resource.type.resource],
          part ≠ "." ∧ part ≠ "..") →
        (∀ e, ¬ request.Misnamed e) →
        (request.query resource).Sendable ∧
          (s.Keeps list (request.query resource) ↔ (request.query resource).Clean ∧ list ≠ [[], []]) := by
  refine ⟨fun q sendable => keeps_iff path sendable, ?_, fun resource request type named => ?_⟩
  · intro q q' u u' sendable sendable' clean clean' found found' same
    have segments := segments_of_target path sendable sendable' clean clean' found found' same
    exact ResourceQuery.segments_inj segments
  · have sendable : (request.query resource).Sendable := .of_request type named
    exact ⟨sendable, keeps_iff path sendable⟩

/-- A server at the root of its address. -/
def plainServer : ObjectServer :=
  ⟨⟨"http", some ⟨"", none, .domain "localhost", none⟩, .segments [[]], none, none⟩, none⟩

/-- The query for a pod. -/
def podQuery (name : String) : ResourceQuery :=
  ((ResourceQuery.all ⟨⟨"", "v1", "pods"⟩, true⟩).inNamespace (some "default")).named name

theorem podQuery_sendable (name : String) (segment : Inspector.isSegment name) : (podQuery name).Sendable where
  type := by
    have straight : ∀ part ∈ ["", "v1", "pods"], part ≠ "." ∧ part ≠ ".." := by decide
    exact straight
  ns _ here := by cases here; decide
  name _ here := by cases here; exact segment

theorem url_keeps_iff_pods :
    (podQuery "web-0").Sendable ∧ (podQuery "web-0").Clean ∧ plainServer.Keeps [[]] (podQuery "web-0") ∧
      (podQuery "web-1").Sendable ∧ (podQuery "web-1").Clean ∧
      ∃ u u', plainServer.url (podQuery "web-0") = .ok u ∧ plainServer.url (podQuery "web-1") = .ok u' ∧
        u.target ≠ u'.target := by
  have zero : (podQuery "web-0").Sendable := podQuery_sendable _ (by decide)
  have one : (podQuery "web-1").Sendable := podQuery_sendable _ (by decide)
  have clean : (podQuery "web-0").Clean := by decide
  have clean' : (podQuery "web-1").Clean := by decide
  obtain ⟨keeps, distinct, -⟩ := url_keeps_iff (s := plainServer) rfl
  refine ⟨zero, clean, (keeps _ zero).2 ⟨clean, by decide⟩, one, clean', _, _, rfl, rfl, fun same => ?_⟩
  exact absurd (distinct _ _ _ _ zero one clean clean' rfl rfl same).2.2 (by decide)

/-- A name of a dot and a tab passes the inspector, and what is requested with it is not below the name. -/
theorem tab_leaves_collection :
    Inspector.isSegment ".\t" ∧ (podQuery ".\t").Sendable ∧ ¬ plainServer.Keeps [[]] (podQuery ".\t") ∧
      (plainServer.url (podQuery ".\t")).map Url.target = .ok "/api/v1/namespaces/default/pods/" ∧
      Inspector.isSegment "web\t-0" ∧ plainServer.url (podQuery "web\t-0") = plainServer.url (podQuery "web-0") := by
  have segment : Inspector.isSegment ".\t" := by decide
  have one := url_eq_of_filter_eq (s := plainServer) (podQuery_sendable "web\t-0" (by decide))
    (podQuery_sendable "web-0" (by decide)) rfl (by decide)
  refine ⟨segment, podQuery_sendable _ segment, ?_, by rfl, by decide, one⟩
  rintro ⟨u, tail, found, path, spells⟩
  cases found
  obtain rfl := UrlPath.segments.inj path
  have last := spells.get (i := 5) (by decide) (by decide)
  exact absurd last (by decide)

end Remote.ObjectServer

end Periscope
