import Periscope.Proofs.Resolution.Candidates

/-!
# The order of the groups

A server may enumerate its groups in any order. What counts is the order of the lists within each group: it says
which version is preferred and which type of a kind comes first. Main result: `resolution_of_reordered`, for results
and errors alike.
-/

namespace Periscope

open Snapshot

variable {s s' s'' : Snapshot}

namespace Snapshot

/-- Both snapshots have the same lists for each group, in the same order. The groups may be mixed in any way, and
lists whose group version does not parse may stand anywhere. -/
def Reordered (s s' : Snapshot) : Prop :=
  ∀ g, s.lists.filter (fun l => l.parsed?.any (·.group == g)) =
    s'.lists.filter fun l => l.parsed?.any (·.group == g)

theorem Reordered.trans (h : Reordered s s') (h' : Reordered s' s'') : Reordered s s'' :=
  fun g => (h g).trans (h' g)

section Moves

variable {front back : List ResourceList} {l l' : ResourceList} {failed failed' : List (String × String)}

/-- Neighbouring lists of different groups may change places. -/
theorem reordered_swap {gv gv' : GroupVersion} (h : l.parsed? = some gv) (h' : l'.parsed? = some gv')
    (hne : gv.group ≠ gv'.group) :
    Reordered ⟨front ++ l :: l' :: back, failed⟩ ⟨front ++ l' :: l :: back, failed'⟩ := by
  intro g
  simp only [List.filter_append, List.filter_cons, h, h', Option.any_some, beq_iff_eq]
  by_cases hg : gv.group = g
  · simp [hg, show gv'.group ≠ g from hg ▸ hne.symm]
  · simp [hg]

/-- A list whose group version does not parse may stand anywhere. -/
theorem reordered_insert (h : l.parsed? = none) :
    Reordered ⟨front ++ back, failed⟩ ⟨front ++ l :: back, failed'⟩ := by
  intro g
  simp [List.filter_append, h]

end Moves

/-! ## Look-ups -/

namespace Reordered

theorem parsedLists (h : Reordered s s') :
    AlikeByGroup (fun x => x.1.group) s.parsedLists s'.parsedLists := by
  intro g
  have narrow (s : Snapshot) : s.parsedLists.filter (fun x => x.1.group == g) =
      (s.lists.filter fun l => l.parsed?.any (·.group == g)).filterMap
        fun l => l.parsed?.map fun gv => (gv, l) := by
    rw [Snapshot.parsedLists, List.filter_filterMap, List.filterMap_filter]
    congr 1
    funext l
    cases l.parsed? with
    | none => rfl
    | some gv => by_cases hg : gv.group = g <;> simp [Option.filter, hg]
  rw [narrow, narrow, h g]

theorem resourceHits (h : Reordered s s') (p : PartialResource) :
    AlikeByGroup GroupVersionResource.group (s.resourceHits p) (s'.resourceHits p) := by
  unfold Snapshot.resourceHits
  refine AlikeByGroup.firstPerGroup ((h.parsedLists.filter _).filterMap fun x _ t ht => ?_)
  obtain ⟨e, -, rfl⟩ := Option.map_eq_some_iff.1 ht
  rfl

theorem resourceFor (h : Reordered s s') : s.resourceFor = s'.resourceFor := by
  funext p
  have hperm := (h.resourceHits p).perm
  rcases Nat.lt_or_ge (s.resourceHits p).length 2 with hfew | htwo
  · have hhits : s.resourceHits p = s'.resourceHits p := by
      match s.resourceHits p, hfew, hperm with
      | [], _, hperm => exact hperm.symm.eq_nil.symm
      | [t], _, hperm => exact List.singleton_perm.1 hperm
    rw [Snapshot.resourceFor, hhits, Snapshot.resourceFor]
  · rw [resourceFor_of_two_le htwo, resourceFor_of_two_le (hperm.length_eq ▸ htwo),
      sortTexts_congr (hperm.map _)]

theorem kindFor (h : Reordered s s') : s.kindFor = s'.kindFor := by
  funext r
  unfold Snapshot.kindFor
  rw [h.parsedLists.filter_eq r.group fun x hx => congrArg GroupVersion.group (beq_iff_eq.1 hx)]

theorem restMapping (h : Reordered s s') : s.restMapping = s'.restMapping := by
  funext k version
  unfold Snapshot.restMapping
  rw [h.parsedLists.findSome?_eq k.group fun x _ hx => by simp [hx]]

theorem candidates (h : Reordered s s') (id : Identifier) :
    (id.candidates s.preferred.lists).Perm (id.candidates s'.preferred.lists) := by
  unfold Identifier.candidates Snapshot.preferred
  refine (Identifier.firstPerType_alike ?_).perm
  rw [List.flatMap_map, List.flatMap_map]
  refine h.parsedLists.firstPerGroup.flatMap fun x hx c hc => ?_
  obtain ⟨gv, e, hgv, -, -, -, rfl⟩ := Identifier.mem_listCandidates hc
  have hparsed : x.2.parsed? = some x.1 := (mem_parsedLists.1 (mem_of_mem_firstPerGroup hx)).2
  cases hparsed.symm.trans hgv
  rfl

end Reordered

end Snapshot

/-! ## Resolutions -/

namespace Discovery

variable {d d' : Discovery}

theorem resolveExact_congr (hresource : d.resourceFor = d'.resourceFor) (hkind : d.kindFor = d'.kindFor)
    (hmapping : d.restMapping = d'.restMapping) : d.resolveExact = d'.resolveExact := by
  funext id
  simp only [resolveExact, lookupByResource, lookupByKind, hresource, hkind, hmapping]

end Discovery

theorem Snapshot.Reordered.scan (h : Reordered s s') (id : Identifier) :
    s.discovery.scan id = s'.discovery.scan id := by
  simp only [Discovery.scan, discovery, Identifier.choose_perm (h.candidates id)]

/-- Two snapshots with the same lists in the same order for each group give the same results and the same errors,
for exact and for best-effort resolutions. -/
theorem resolution_of_reordered (h : s.Reordered s') (id : Identifier) :
    s.discovery.resolveExact id = s'.discovery.resolveExact id ∧
      s.discovery.resolveBestEffort id = s'.discovery.resolveBestEffort id := by
  have hexact : s.discovery.resolveExact = s'.discovery.resolveExact :=
    Discovery.resolveExact_congr h.resourceFor h.kindFor h.restMapping
  refine ⟨congrFun hexact id, ?_⟩
  simp only [Discovery.resolveBestEffort, hexact, h.scan]

/-- The widgets of a group, in its version `v1`. -/
def widgetList (group : String) : ResourceList :=
  ⟨group ++ "/v1", [⟨"widgets", "widget", true, "Widget", [], []⟩]⟩

/-- The error that names the widgets of both groups. -/
def ambiguousWidgets : Except ResolveError ResolvedResource :=
  .error (.ambiguous "resource \"widgets\"" ["alpha/v1/widgets", "beta/v1/widgets"])

/-- Two groups with widgets change places, with a list between them whose group version does not parse. The error
names both in the same order, for an exact resolution and for one with best effort. -/
theorem resolution_of_reordered_widgets :
    Reordered ⟨[widgetList "alpha", widgetList "beta"], []⟩
        ⟨[widgetList "beta", widgetList "bad/", widgetList "alpha"], []⟩ ∧
      (Snapshot.discovery ⟨[widgetList "alpha", widgetList "beta"], []⟩).resolveExact
          ⟨none, none, some "widgets", none⟩ = ambiguousWidgets ∧
      (Snapshot.discovery ⟨[widgetList "beta", widgetList "bad/", widgetList "alpha"], []⟩).resolveExact
          ⟨none, none, some "widgets", none⟩ = ambiguousWidgets ∧
      (Snapshot.discovery ⟨[widgetList "alpha", widgetList "beta"], []⟩).resolveBestEffort
          ⟨none, none, some "widgets", none⟩ = ambiguousWidgets ∧
      (Snapshot.discovery ⟨[widgetList "beta", widgetList "bad/", widgetList "alpha"], []⟩).resolveBestEffort
          ⟨none, none, some "widgets", none⟩ = ambiguousWidgets := by
  have swapped : Reordered ⟨[widgetList "alpha", widgetList "beta"], []⟩
      ⟨[widgetList "beta", widgetList "alpha"], []⟩ :=
    @reordered_swap [] [] _ _ [] [] ⟨"alpha", "v1"⟩ ⟨"beta", "v1"⟩ (by decide +kernel) (by decide +kernel)
      (by decide)
  have inserted : Reordered ⟨[widgetList "beta", widgetList "alpha"], []⟩
      ⟨[widgetList "beta", widgetList "bad/", widgetList "alpha"], []⟩ :=
    @reordered_insert [widgetList "beta"] _ _ _ _ (by decide +kernel)
  have sorted : sortTexts ["alpha/v1/widgets", "beta/v1/widgets"] = ["alpha/v1/widgets", "beta/v1/widgets"] :=
    sortTexts_eq (.refl _) (by decide +kernel)
  have hexact : (Snapshot.discovery ⟨[widgetList "alpha", widgetList "beta"], []⟩).resolveExact
      ⟨none, none, some "widgets", none⟩ =
        .error (.ambiguous "resource \"widgets\"" (sortTexts ["alpha/v1/widgets", "beta/v1/widgets"])) := by
    rfl
  have hbest : (Snapshot.discovery ⟨[widgetList "alpha", widgetList "beta"], []⟩).resolveBestEffort
      ⟨none, none, some "widgets", none⟩ =
        .error (.ambiguous "resource \"widgets\"" (sortTexts ["alpha/v1/widgets", "beta/v1/widgets"])) := by
    rfl
  rw [sorted, ← ambiguousWidgets] at hexact hbest
  have reordered := swapped.trans inserted
  obtain ⟨sameExact, sameBestEffort⟩ := resolution_of_reordered reordered ⟨none, none, some "widgets", none⟩
  exact ⟨reordered, hexact, sameExact ▸ hexact, hbest, sameBestEffort ▸ hbest⟩

end Periscope
