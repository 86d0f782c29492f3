import Mathlib.Data.Set.Subsingleton
import Periscope.Proofs.Resolution.Reports

/-!
# The types of a kind

A scan for a kind answers by the set of its types in the preferred versions: none is not found, one is the answer,
and several are reported. Versions that are not preferred and parts of types do not count.
Main result: `bestEffort_by_kind_iff`.
-/

namespace Periscope

open Snapshot

variable {s s' : Snapshot} {id : Identifier} {t : GroupVersionResource} {c : Candidate} {l : ResourceList}
  {kind : String} {group? : Option String} {answer : Except ResolveError ResolvedResource}

/-! ## Preferred lists -/

/-- Whether an entry is a proper type of a kind. -/
def ResourceEntry.isOfKind (kind : String) (e : ResourceEntry) : Bool := !e.isSubresource && e.kind == kind

/-- A list without the parts of types. -/
def ResourceList.proper (l : ResourceList) : ResourceList :=
  { l with resources := l.resources.filter (!·.isSubresource) }

namespace Snapshot

/-- The first list of a group, which has its preferred version. -/
def firstList? (s : Snapshot) (g : String) : Option ResourceList :=
  s.lists.find? fun l => l.parsed?.any (·.group == g)

/-- The types of a kind in the preferred versions, of one group if one is given. -/
def preferredOfKind (s : Snapshot) (kind : String) (group? : Option String) : Set GroupVersionResource :=
  {t | (∀ g ∈ group?, t.group = g) ∧ ∃ l, s.firstList? t.group = some l ∧ l.parsed? = some t.groupVersion ∧
    ∃ e ∈ l.resources, e.isOfKind kind ∧ e.name = t.resource}

/-- The first entry of a kind that has the name of a type, in the first list of its group. -/
def firstOfKind? (s : Snapshot) (kind : String) (t : GroupVersionResource) : Option ResourceEntry :=
  (s.firstList? t.group).bind fun l => l.resources.find? fun e => e.isOfKind kind && e.name == t.resource

end Snapshot

/-! ## Candidates -/

namespace Identifier

theorem listCandidates_proper (id : Identifier) (l : ResourceList) :
    id.listCandidates l.proper = id.listCandidates l := by
  have hfilter : l.proper.resources.filter id.fits = l.resources.filter id.fits := by
    rw [ResourceList.proper, List.filter_filter]
    congr 1
    funext e
    cases hsub : e.isSubresource <;> simp [fits, hsub]
  rw [listCandidates, listCandidates, hfilter]
  rfl

/-- A list has a candidate of a type if its group version is that of the type. The first entry that fits and has the
name of the type makes the first such candidate. -/
theorem find?_listCandidates (id : Identifier) (t : GroupVersionResource) (l : ResourceList) :
    (id.listCandidates l).find? (·.resolved.type == t) =
      if l.parsed? = some t.groupVersion ∧ id.group?.all (· == t.group) then
        (l.resources.find? fun e => id.fits e && e.name == t.resource).map fun e =>
          ⟨⟨t, e.namespaced⟩, l.groupVersion⟩
      else none := by
  cases hparsed : l.parsed? with
  | none => simp [listCandidates, hparsed]
  | some gv =>
    rw [listCandidates, hparsed]
    by_cases hgv : gv = t.groupVersion
    · subst hgv
      have hgroup : t.groupVersion.group = t.group := rfl
      simp only [hgroup, true_and]
      split
      · have named (e : ResourceEntry) :
            ((⟨t.group, t.groupVersion.version, e.name⟩ : GroupVersionResource) == t) = (e.name == t.resource) := by
          cases t
          simp [GroupVersionResource.groupVersion]
        rw [List.find?_map, List.find?_filter]
        simp only [Function.comp_def, named, Bool.decide_and, Bool.decide_eq_true]
        refine Option.map_congr fun e he => ?_
        have hboth := List.find?_some he
        have hname : e.name = t.resource := by simpa using (Bool.and_eq_true_iff.1 hboth).2
        rw [hname]
        rfl
      · rfl
    · have other (e : ResourceEntry) : (⟨gv.group, gv.version, e.name⟩ : GroupVersionResource) ≠ t := by
        rintro rfl
        exact hgv rfl
      simp only [Option.some.injEq, hgv, false_and, if_false]
      split
      · simp [other]
      · rfl

/-- The candidates of a scan are the first ones of their types in the first lists of the groups. -/
theorem mem_candidates_preferred : c ∈ id.candidates s.preferred.lists ↔
    ((s.firstList? c.resolved.type.group).bind fun l =>
      (id.listCandidates l).find? (·.resolved.type == c.resolved.type)) = some c := by
  have hnil : ∀ l ∈ s.preferred.lists, inGroup c.resolved.type.group l.groupVersion = false →
      (id.listCandidates l).filter (·.resolved.type == c.resolved.type) = [] := by
    intro l _ hgroup
    refine List.filter_eq_nil_iff.2 fun d hd htype => ?_
    obtain ⟨gv, e, hgv, -, -, -, rfl⟩ := mem_listCandidates hd
    have hsame : gv.group = c.resolved.type.group := congrArg GroupVersionResource.group (beq_iff_eq.1 htype)
    rw [ResourceList.parsed?] at hgv
    simp [inGroup, hgv, hsame] at hgroup
  have hlist : s.lists.find? (inGroup c.resolved.type.group ·.groupVersion) =
      s.firstList? c.resolved.type.group := rfl
  -- only the lists of the group have candidates of the type, and one of them is preferred
  rw [candidates, mem_firstPerType_iff, ← List.head?_filter, List.filter_flatMap, ← flatMap_filter_of_nil hnil,
    preferred_of_group, hlist]
  cases s.firstList? c.resolved.type.group with
  | none => rfl
  | some l => simp

theorem fits_of_kind (hkind : id.kind? = some kind) (hword : id.resource? = none) (e : ResourceEntry) :
    id.fits e = e.isOfKind kind := by
  rw [fits, hkind, hword]
  rfl

/-- For a kind, they are the first entries of its types. -/
theorem mem_candidates_of_kind (hkind : id.kind? = some kind) (hword : id.resource? = none) :
    c ∈ id.candidates s.preferred.lists ↔ c.resolved.type ∈ s.preferredOfKind kind id.group? ∧
      ∃ l e, s.firstList? c.resolved.type.group = some l ∧ s.firstOfKind? kind c.resolved.type = some e ∧
        c = ⟨⟨c.resolved.type, e.namespaced⟩, l.groupVersion⟩ := by
  rw [mem_candidates_preferred, Option.bind_eq_some_iff]
  simp only [find?_listCandidates, fits_of_kind hkind hword]
  constructor
  · rintro ⟨l, hl, hfind⟩
    split at hfind
    · next hasked =>
      obtain ⟨e, he, hc⟩ := Option.map_eq_some_iff.1 hfind
      have hboth := List.find?_some he
      simp only [Bool.and_eq_true, beq_iff_eq] at hboth
      refine ⟨⟨?_, l, hl, hasked.1, e, List.mem_of_find?_eq_some he, hboth⟩, l, e, hl, ?_, hc.symm⟩
      · intro g hg
        have hgroup := hasked.2
        rw [Option.mem_def.1 hg] at hgroup
        exact (beq_iff_eq.1 hgroup).symm
      · rw [firstOfKind?, hl]
        exact he
    · cases hfind
  · rintro ⟨⟨hgroup, l', hl', hparsed, -⟩, l, e, hl, he, hc⟩
    obtain rfl : l' = l := Option.some.inj (hl'.symm.trans hl)
    have hall : id.group?.all (· == c.resolved.type.group) := by
      rw [Option.all_eq_true]
      intro g hg
      exact beq_iff_eq.2 (hgroup g hg).symm
    rw [firstOfKind?, hl, Option.bind_some] at he
    exact ⟨l', hl, by rw [if_pos ⟨hparsed, hall⟩, he, Option.map_some, ← hc]⟩

theorem mem_preferredOfKind_iff (hkind : id.kind? = some kind) (hword : id.resource? = none) :
    t ∈ s.preferredOfKind kind id.group? ↔ ∃ c ∈ id.candidates s.preferred.lists, c.resolved.type = t := by
  constructor
  · intro ht
    have ⟨_, l, hl, _, e, he, hof, hname⟩ := ht
    obtain ⟨first, hfirst⟩ : ∃ first, s.firstOfKind? kind t = some first := by
      rw [firstOfKind?, hl]
      exact Option.isSome_iff_exists.1 (List.find?_isSome.2 ⟨e, he, by simp [hof, hname]⟩)
    exact ⟨_, (mem_candidates_of_kind (c := ⟨⟨t, first.namespaced⟩, l.groupVersion⟩) hkind hword).2
      ⟨ht, l, first, hl, hfirst, rfl⟩, rfl⟩
  · rintro ⟨c, hc, rfl⟩
    exact ((mem_candidates_of_kind hkind hword).1 hc).1

theorem pairwise_candidates (id : Identifier) (lists : List ResourceList) :
    (id.candidates lists).Pairwise fun c d => c.resolved.type ≠ d.resolved.type :=
  pairwise_firstPerType

theorem nodup_candidates (id : Identifier) (lists : List ResourceList) : (id.candidates lists).Nodup :=
  (pairwise_candidates id lists).imp fun hne heq => hne (by rw [heq])

/-- Only what is proper in the first lists of the groups matters for the candidates. -/
theorem candidates_perm_of_firstLists
    (h : ∀ g, (s'.firstList? g).map ResourceList.proper = (s.firstList? g).map ResourceList.proper) :
    (id.candidates s'.preferred.lists).Perm (id.candidates s.preferred.lists) := by
  refine (List.perm_ext_iff_of_nodup (nodup_candidates _ _) (nodup_candidates _ _)).2 fun c => ?_
  have byProper (s : Snapshot) : ((s.firstList? c.resolved.type.group).bind fun l =>
      (id.listCandidates l).find? (·.resolved.type == c.resolved.type)) =
      ((s.firstList? c.resolved.type.group).map ResourceList.proper).bind fun l =>
        (id.listCandidates l).find? (·.resolved.type == c.resolved.type) := by
    simp only [Option.bind_map, Function.comp_def, listCandidates_proper]
  rw [mem_candidates_preferred, mem_candidates_preferred, byProper, byProper, h]

theorem resolveBestEffort_of_kind (hkind : id.kind? = some kind) (hword : id.resource? = none)
    (hversion : id.apiVersion? = none) :
    s.discovery.resolveBestEffort id = id.choose (id.candidates s.preferred.lists) := by
  have normal : id.normalized = id := normalized_of_no_dot (by simp [hword])
  simp [Discovery.resolveBestEffort, normal, hword, hversion, Discovery.scan, hkind, discovery]

end Identifier

/-! ## Answers -/

/-- The candidates are the texts of the types, strictly increasing by their bytes, and no two types share a text. -/
structure SortedLabels (types : Set GroupVersionResource) (candidates : List String) : Prop where
  mem_iff : ∀ label, label ∈ candidates ↔ ∃ t ∈ types, t.render = label
  sorted : candidates.Pairwise fun a b => a.toUTF8.data.toList < b.toUTF8.data.toList
  distinct : types.InjOn GroupVersionResource.render

/-- What the types of a kind make of a scan. -/
inductive Snapshot.AnswerByKind (s : Snapshot) (kind : String) (group? : Option String) :
    Except ResolveError ResolvedResource → Prop
  | none : s.preferredOfKind kind group? = ∅ →
      AnswerByKind s kind group? (.error (.notFound ("kind " ++ Text.quoted kind)))
  | one {t : GroupVersionResource} {e : ResourceEntry} : s.preferredOfKind kind group? = {t} →
      s.firstOfKind? kind t = some e → AnswerByKind s kind group? (.ok ⟨t, e.namespaced⟩)
  | several {candidates : List String} : (s.preferredOfKind kind group?).Nontrivial →
      SortedLabels (s.preferredOfKind kind group?) candidates →
      AnswerByKind s kind group? (.error (.ambiguous ("kind " ++ Text.quoted kind) candidates))

namespace Snapshot.AnswerByKind

theorem notFound_iff (h : s.AnswerByKind kind group? answer) :
    (∃ what, answer = .error (.notFound what)) ↔ s.preferredOfKind kind group? = ∅ := by
  cases h with
  | none hnone => simp [hnone]
  | one hone => simp [hone]
  | several hseveral => simp [hseveral.nonempty.ne_empty]

theorem ok_iff (h : s.AnswerByKind kind group? answer) :
    (∃ r, answer = .ok r) ↔ ∃ t, s.preferredOfKind kind group? = {t} := by
  cases h with
  | none hnone => simp [hnone, eq_comm]
  | one hone => simp [hone]
  | several hseveral =>
    have hno : ∀ t, s.preferredOfKind kind group? ≠ {t} := fun t hone => by simp [hone] at hseveral
    simp [hno]

theorem ambiguous_iff (h : s.AnswerByKind kind group? answer) :
    (∃ what candidates, answer = .error (.ambiguous what candidates)) ↔
      (s.preferredOfKind kind group?).Nontrivial := by
  cases h with
  | none hnone => simp [hnone]
  | one hone => simp [hone]
  | several hseveral => simp [hseveral]

end Snapshot.AnswerByKind

/-! ## The scan -/

namespace Snapshot

theorem readable_of_mem_candidates (hc : c ∈ id.candidates s.preferred.lists) : c.resolved.type.Readable := by
  obtain ⟨l, hl, hcl⟩ := List.mem_flatMap.1 (Identifier.mem_of_mem_firstPerType hc)
  obtain ⟨gv, e, hgv, he, -, hfits, rfl⟩ := Identifier.mem_listCandidates hcl
  simp only [Identifier.fits, Bool.and_eq_true, Bool.not_eq_true'] at hfits
  exact readable_of_mem_typesOf (mem_typesOf.2 ⟨l, mem_preferred hl, hgv, he, hfits.1⟩) rfl

theorem sortedLabels_of_kind (hkind : id.kind? = some kind) (hword : id.resource? = none) :
    SortedLabels (s.preferredOfKind kind id.group?)
      (sortTexts ((id.candidates s.preferred.lists).map Candidate.label)) := by
  have htypes : ∀ t, t ∈ (id.candidates s.preferred.lists).map (·.resolved.type) ↔
      t ∈ s.preferredOfKind kind id.group? := fun t => by
    rw [Identifier.mem_preferredOfKind_iff hkind hword, List.mem_map]
  have hreadable : ∀ t ∈ (id.candidates s.preferred.lists).map (·.resolved.type), t.Readable := by
    intro t ht
    obtain ⟨c, hc, rfl⟩ := List.mem_map.1 ht
    exact readable_of_mem_candidates hc
  have hdifferent : ((id.candidates s.preferred.lists).map (·.resolved.type)).Nodup :=
    List.pairwise_map.2 (id.pairwise_candidates _)
  rw [map_label_candidates]
  refine ⟨fun label => ?_, sortTexts_strict (GroupVersionResource.nodup_map_render hreadable hdifferent), ?_⟩
  · rw [(sortTexts_perm _).mem_iff, List.mem_map]
    simp only [htypes]
  · intro t ht u hu same
    exact (hreadable t ((htypes t).2 ht)).render_inj (hreadable u ((htypes u).2 hu)) same

theorem answerByKind_choose (hkind : id.kind? = some kind) (hword : id.resource? = none) :
    s.AnswerByKind kind id.group? (id.choose (id.candidates s.preferred.lists)) := by
  have hwhat : id.what = "kind " ++ Text.quoted kind := by rw [Identifier.what, hword, hkind]
  have hmem {t} := Identifier.mem_preferredOfKind_iff (s := s) (t := t) hkind hword
  match hcs : id.candidates s.preferred.lists with
  | [] =>
    rw [Identifier.choose, hwhat]
    refine .none (Set.eq_empty_iff_forall_notMem.2 fun t ht => ?_)
    obtain ⟨c, hc, -⟩ := hmem.1 ht
    simp [hcs] at hc
  | [c] =>
    have only : c ∈ id.candidates s.preferred.lists := by simp [hcs]
    obtain ⟨-, l, e, -, he, hc⟩ := (Identifier.mem_candidates_of_kind hkind hword).1 only
    rw [Identifier.choose, hc]
    refine .one (Set.ext fun t => ?_) he
    simp [hmem, hcs, eq_comm]
  | c :: d :: rest =>
    have labels := sortedLabels_of_kind (s := s) hkind hword
    rw [hcs] at labels
    rw [Identifier.choose_of_two_le (by simp), hwhat]
    refine .several ⟨c.resolved.type, ?_, d.resolved.type, ?_, ?_⟩ labels
    · exact hmem.2 ⟨c, by simp [hcs], rfl⟩
    · exact hmem.2 ⟨d, by simp [hcs], rfl⟩
    · have different := id.pairwise_candidates s.preferred.lists
      rw [hcs, List.pairwise_cons] at different
      exact different.1 d (by simp)

end Snapshot

/-- What a best-effort resolution answers for a kind without a word and a version. -/
theorem bestEffort_by_kind_iff (hkind : id.kind? = some kind) (hword : id.resource? = none)
    (hversion : id.apiVersion? = none) :
    ((∃ what, s.discovery.resolveBestEffort id = .error (.notFound what)) ↔ s.preferredOfKind kind id.group? = ∅) ∧
    ((∃ r, s.discovery.resolveBestEffort id = .ok r) ↔ ∃ t, s.preferredOfKind kind id.group? = {t}) ∧
    ((∃ what candidates, s.discovery.resolveBestEffort id = .error (.ambiguous what candidates)) ↔
      (s.preferredOfKind kind id.group?).Nontrivial) ∧
    s.AnswerByKind kind id.group? (s.discovery.resolveBestEffort id) ∧
    ∀ s' : Snapshot, (∀ g, (s'.firstList? g).map ResourceList.proper = (s.firstList? g).map ResourceList.proper) →
      s'.discovery.resolveBestEffort id = s.discovery.resolveBestEffort id := by
  have answer := answerByKind_choose (s := s) hkind hword
  rw [← Identifier.resolveBestEffort_of_kind hkind hword hversion] at answer
  refine ⟨answer.notFound_iff, answer.ok_iff, answer.ambiguous_iff, answer, fun s' hfirst => ?_⟩
  rw [Identifier.resolveBestEffort_of_kind hkind hword hversion,
    Identifier.resolveBestEffort_of_kind hkind hword hversion]
  exact Identifier.choose_perm (Identifier.candidates_perm_of_firstLists hfirst)

/-- A list that does not parse, a type that is listed twice and with a part, a version that is not preferred, and two
types of one kind. -/
def kindsOfParts : Snapshot :=
  { lists :=
      [⟨"apps//v3", [⟨"widgets", "widget", true, "Widget", [], []⟩]⟩,
        ⟨"apps/v2", [⟨"widgets/status", "widget", false, "Widget", [], []⟩,
          ⟨"widgets", "widget", true, "Widget", [], []⟩, ⟨"widgets", "widget", false, "Widget", [], []⟩]⟩,
        ⟨"apps/v1", [⟨"oldwidgets", "widget", true, "Widget", [], []⟩, ⟨"bolts", "bolt", true, "Bolt", [], []⟩]⟩,
        ⟨"shop/v1", [⟨"parts", "part", true, "Part", [], []⟩, ⟨"orders", "order", true, "Part", [], []⟩]⟩]
    failedGroups := [] }

/-- The same without what does not count. -/
def wholeKinds : Snapshot :=
  { lists :=
      [⟨"apps/v2", [⟨"widgets", "widget", true, "Widget", [], []⟩, ⟨"widgets", "widget", false, "Widget", [], []⟩]⟩,
        ⟨"shop/v1", [⟨"parts", "part", true, "Part", [], []⟩, ⟨"orders", "order", true, "Part", [], []⟩]⟩]
    failedGroups := [] }

theorem firstList?_wholeKinds (g : String) :
    (wholeKinds.firstList? g).map ResourceList.proper = (kindsOfParts.firstList? g).map ResourceList.proper := by
  have v3 : GroupVersion.ofText? "apps//v3" = none := by rfl
  have v2 : GroupVersion.ofText? "apps/v2" = some ⟨"apps", "v2"⟩ := by rfl
  have v1 : GroupVersion.ofText? "apps/v1" = some ⟨"apps", "v1"⟩ := by rfl
  have shop : GroupVersion.ofText? "shop/v1" = some ⟨"shop", "v1"⟩ := by rfl
  simp only [firstList?, wholeKinds, kindsOfParts, List.find?_cons, ResourceList.parsed?, v3, v2, v1, shop,
    Option.any_none, Option.any_some]
  cases "apps" == g with
  | true => rfl
  | false => rfl

/-- One type, several, and none. -/
theorem bestEffort_by_kind_parts :
    kindsOfParts.discovery.resolveBestEffort ⟨none, some "Widget", none, none⟩ =
        .ok ⟨⟨"apps", "v2", "widgets"⟩, true⟩ ∧
      kindsOfParts.preferredOfKind "Widget" none = {⟨"apps", "v2", "widgets"⟩} ∧
      kindsOfParts.discovery.resolveBestEffort ⟨none, some "Part", none, some "shop"⟩ =
        .error (.ambiguous "kind \"Part\"" ["shop/v1/orders", "shop/v1/parts"]) ∧
      (kindsOfParts.preferredOfKind "Part" (some "shop")).Nontrivial ∧
      kindsOfParts.discovery.resolveBestEffort ⟨none, some "Bolt", none, none⟩ =
        .error (.notFound "kind \"Bolt\"") ∧
      kindsOfParts.preferredOfKind "Bolt" none = ∅ ∧
      wholeKinds.discovery.resolveBestEffort ⟨none, some "Bolt", none, none⟩ =
        .error (.notFound "kind \"Bolt\"") := by
  have widget : kindsOfParts.discovery.resolveBestEffort ⟨none, some "Widget", none, none⟩ =
      .ok ⟨⟨"apps", "v2", "widgets"⟩, true⟩ := by rfl
  have bolt : kindsOfParts.discovery.resolveBestEffort ⟨none, some "Bolt", none, none⟩ =
      .error (.notFound "kind \"Bolt\"") := by rfl
  have part : kindsOfParts.discovery.resolveBestEffort ⟨none, some "Part", none, some "shop"⟩ =
      .error (.ambiguous "kind \"Part\"" (sortTexts ["shop/v1/parts", "shop/v1/orders"])) := by rfl
  have sorted : sortTexts ["shop/v1/parts", "shop/v1/orders"] = ["shop/v1/orders", "shop/v1/parts"] :=
    sortTexts_eq (.swap _ _ _) (by decide +kernel)
  obtain ⟨t, one⟩ := (bestEffort_by_kind_iff rfl rfl rfl).2.1.1 ⟨_, widget⟩
  have several := (bestEffort_by_kind_iff rfl rfl rfl).2.2.1.1 ⟨_, _, part⟩
  have missing := (bestEffort_by_kind_iff rfl rfl rfl).1.1 ⟨_, bolt⟩
  have same : wholeKinds.discovery.resolveBestEffort ⟨none, some "Bolt", none, none⟩ =
      kindsOfParts.discovery.resolveBestEffort ⟨none, some "Bolt", none, none⟩ :=
    (bestEffort_by_kind_iff rfl rfl rfl).2.2.2.2 wholeKinds firstList?_wholeKinds
  have anyGroup (kind : String) : Identifier.group? ⟨none, some kind, none, none⟩ = none := rfl
  have shop : Identifier.group? ⟨none, some "Part", none, some "shop"⟩ = some "shop" := by rfl
  rw [anyGroup] at one missing
  rw [shop] at several
  have listed : ⟨"apps", "v2", "widgets"⟩ ∈ kindsOfParts.preferredOfKind "Widget" none :=
    ⟨by simp, _, rfl, rfl, _, List.mem_of_getElem? (i := 1) rfl, by decide +kernel, rfl⟩
  obtain rfl : _ = t := by simpa [one] using listed
  rw [sorted] at part
  exact ⟨widget, one, part, several, bolt, missing, same.trans bolt⟩

end Periscope
