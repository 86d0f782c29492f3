import Mathlib.Data.Set.Subsingleton
import Periscope.Proofs.Resolution.Reports

/-!
# The groups of a word

The groups that have a type of a word decide what an exact resolution of the word answers: without such a group it
finds nothing, with one group it answers a type of that group, and several groups are reported with one candidate
each. Main result: `exact_by_word_iff`.
-/

namespace Periscope

open Snapshot

variable {s : Snapshot} {id : Identifier} {p : PartialResource} {t : GroupVersionResource} {g : String}
  {answer : Except ResolveError ResolvedResource} {word : String} {version : Option GroupVersion}

/-! ## Matching lists -/

namespace PartialResource

/-- Whether a group version is one that is asked for. -/
def asksFor (p : PartialResource) (gv : GroupVersion) : Bool :=
  p.group.all (· == gv.group) && p.version.all (· == gv.version)

/-- Whether an entry is a proper type whose plural or singular name is the word. -/
def means (p : PartialResource) (e : ResourceEntry) : Bool := !e.isSubresource && isNamed p.resource e

/-- Whether a list is of the group, in a version that is asked for, and has a type of the word. -/
def matchesIn (p : PartialResource) (g : String) (l : ResourceList) : Bool :=
  l.parsed?.any fun gv => gv.group == g && p.asksFor gv && l.resources.any p.means

/-- The first type of the word in a list, if the group version of the list is asked for. -/
def hit? (p : PartialResource) (l : ResourceList) : Option GroupVersionResource :=
  (l.parsed?.filter p.asksFor).bind fun gv =>
    (l.resources.find? p.means).map fun e => ⟨gv.group, gv.version, e.name⟩

theorem any_hit? (p : PartialResource) (g : String) (l : ResourceList) :
    (p.hit? l).any (·.group == g) = p.matchesIn g l := by
  unfold hit? matchesIn
  cases l.parsed? with
  | none => rfl
  | some gv =>
    cases hasked : p.asksFor gv with
    | false => simp [Option.filter, hasked]
    | true =>
      cases hfind : l.resources.find? p.means with
      | none =>
        have hnone : l.resources.any p.means = false := List.any_eq_false.2 (List.find?_eq_none.1 hfind)
        simp [Option.filter, hasked, hnone]
      | some e =>
        have hany : l.resources.any p.means :=
          List.any_eq_true.2 ⟨e, List.mem_of_find?_eq_some hfind, List.find?_some hfind⟩
        simp [Option.filter, hasked, hany]

end PartialResource

namespace Snapshot

/-- The groups that have a type of the word in a list whose group version is asked for. -/
def groupsOf (s : Snapshot) (p : PartialResource) : Set String := {g | ∃ l ∈ s.lists, p.matchesIn g l}

/-- The first type of the word in the first matching list of a group. -/
def firstMatch? (s : Snapshot) (p : PartialResource) (g : String) : Option GroupVersionResource :=
  (s.lists.find? (p.matchesIn g)).bind p.hit?

theorem group_of_firstMatch? (h : s.firstMatch? p g = some t) : t.group = g := by
  obtain ⟨l, hl, ht⟩ := Option.bind_eq_some_iff.1 h
  have hmatch := List.find?_some hl
  rw [← p.any_hit?, ht] at hmatch
  simpa using hmatch

theorem firstMatch?_isSome_iff : (s.firstMatch? p g).isSome ↔ g ∈ s.groupsOf p := by
  rw [firstMatch?, groupsOf, Set.mem_ofPred_eq, ← List.find?_isSome]
  cases hl : s.lists.find? (p.matchesIn g) with
  | none => rfl
  | some l =>
    have hmatch := List.find?_some hl
    rw [← p.any_hit?] at hmatch
    cases ht : p.hit? l with
    | none => simp [ht] at hmatch
    | some t => simp [ht]

theorem resourceHits_eq_firstPerGroup (s : Snapshot) (p : PartialResource) :
    s.resourceHits p = firstPerGroup GroupVersionResource.group (s.lists.filterMap p.hit?) := by
  rw [resourceHits, parsedLists, List.filter_filterMap, List.filterMap_filterMap]
  congr 2
  funext l
  unfold PartialResource.hit?
  cases l.parsed? with
  | none => rfl
  | some gv =>
    simp only [Option.map_some, Option.filter_some]
    rw [← PartialResource.asksFor]
    split <;> rfl

/-- The hits of a look-up are the first matches of the groups. -/
theorem mem_resourceHits_iff : t ∈ s.resourceHits p ↔ s.firstMatch? p t.group = some t := by
  rw [resourceHits_eq_firstPerGroup, mem_firstPerGroup_iff, List.find?_filterMap]
  simp only [p.any_hit?]
  rfl

/-! ## The three steps -/

/-- Behind a hit the other two steps of a look-up find something, in the group version of the hit. -/
theorem lookupByResource_of_hit (h : s.resourceFor p = .ok t) :
    ∃ kind mapping, s.kindFor t = .ok kind ∧ s.restMapping kind.groupKind (some kind.version) = .ok mapping ∧
      mapping.resource.groupVersion = t.groupVersion ∧
      s.discovery.lookupByResource p = .ok mapping.resolved := by
  obtain ⟨-, -, hit, hhit, hname⟩ := resourceFor_ok h
  have hmem : hit ∈ s.typesOf t.groupVersion := List.mem_of_find?_eq_some hhit
  have hslash : t.resource.toList.contains '/' = false := by
    obtain ⟨_, _, _, _, hsub⟩ := mem_typesOf.1 hmem
    rw [← hname]
    exact hsub
  obtain ⟨first, hfirst⟩ : ∃ first, (s.typesOf t.groupVersion).find? (fun e => e.name == t.resource) = some first :=
    Option.isSome_iff_exists.1 (List.find?_isSome.2 ⟨hit, hmem, by simp [hname]⟩)
  obtain ⟨e, he⟩ : ∃ e, (s.typesOf t.groupVersion).find? (fun e => e.kind == first.kind) = some e :=
    Option.isSome_iff_exists.1 (List.find?_isSome.2 ⟨first, List.mem_of_find?_eq_some hfirst, by simp⟩)
  have hkind : s.kindFor t = .ok ⟨t.group, t.version, first.kind⟩ := by rw [kindFor_eq hslash, hfirst]
  have hmapping : s.restMapping ⟨t.group, first.kind⟩ (some t.version) = .ok (mappingOf t.groupVersion e) :=
    restMapping_of_find? he
  refine ⟨_, _, hkind, hmapping, rfl, ?_⟩
  simp only [Discovery.lookupByResource, discovery, h, hkind, bind, Except.bind, GroupVersionKind.groupKind, hmapping]

end Snapshot

/-- Without a kind an exact resolution of a word is its look-up. -/
theorem Discovery.resolveExact_of_word {d : Discovery}
    (hkind : id.kind? = none) (hword : id.resource? = some word) (hversion : id.explicitVersion = .ok version) :
    d.resolveExact id = (d.lookupByResource (id.lookup version word)).mapError .ofDiscovery := by
  simp only [resolveExact, hversion, hword, hkind, bind, Except.bind, Option.isNone_none, ↓reduceIte]
  split
  · next hlookup => rw [hlookup]; rfl
  · next hlookup => rw [hlookup]; rfl
  · next hlookup => rw [hlookup]; rfl

/-! ## Answers -/

/-- The candidates are the texts of the first matches, one for each group, strictly increasing by their bytes. -/
structure Snapshot.OnePerGroup (s : Snapshot) (p : PartialResource) (types : List GroupVersionResource)
    (candidates : List String) : Prop where
  groups : (types.map GroupVersionResource.group).Nodup
  first : ∀ t, t ∈ types ↔ s.firstMatch? p t.group = some t
  texts : candidates.Perm (types.map GroupVersionResource.render)
  sorted : candidates.Pairwise fun a b => a.toUTF8.data.toList < b.toUTF8.data.toList

/-- What the groups of a word make of its look-up. -/
inductive Snapshot.AnswerByWord (s : Snapshot) (p : PartialResource) : Except ResolveError ResolvedResource → Prop
  | none : s.groupsOf p = ∅ → AnswerByWord s p (.error (.notFound p.render))
  | one {g : String} {t : GroupVersionResource} {r : ResolvedResource} : s.groupsOf p = {g} →
      s.firstMatch? p g = some t → r.type.group = g → r.type.version = t.version → AnswerByWord s p (.ok r)
  | several {types : List GroupVersionResource} {candidates : List String} : (s.groupsOf p).Nontrivial →
      s.OnePerGroup p types candidates → AnswerByWord s p (.error (.ambiguous p.render candidates))

namespace Snapshot

theorem mem_groupsOf_iff : g ∈ s.groupsOf p ↔ ∃ t ∈ s.resourceHits p, t.group = g := by
  rw [← firstMatch?_isSome_iff, Option.isSome_iff_exists]
  constructor
  · rintro ⟨t, ht⟩
    obtain rfl := group_of_firstMatch? ht
    exact ⟨t, mem_resourceHits_iff.2 ht, rfl⟩
  · rintro ⟨t, ht, rfl⟩
    exact ⟨t, mem_resourceHits_iff.1 ht⟩

theorem pairwise_resourceHits : ((s.resourceHits p).map GroupVersionResource.group).Nodup :=
  List.pairwise_map.2 pairwise_firstPerGroup

theorem readable_of_mem_resourceHits (h : t ∈ s.resourceHits p) : t.Readable := by
  obtain ⟨-, -, e, he, hname⟩ := mem_resourceHits h
  exact readable_of_mem_typesOf (List.mem_of_find?_eq_some he) hname

theorem onePerGroup_resourceHits (s : Snapshot) (p : PartialResource) :
    s.OnePerGroup p (s.resourceHits p) (sortTexts ((s.resourceHits p).map GroupVersionResource.render)) where
  groups := pairwise_resourceHits
  first _ := mem_resourceHits_iff
  texts := sortTexts_perm _
  sorted := by
    have hdifferent : (s.resourceHits p).Nodup := pairwise_firstPerGroup.imp fun hne heq => hne (congrArg _ heq)
    exact sortTexts_strict (GroupVersionResource.nodup_map_render
      (fun _ ht => readable_of_mem_resourceHits ht) hdifferent)

theorem answerByWord_lookup (s : Snapshot) (p : PartialResource) :
    s.AnswerByWord p ((s.discovery.lookupByResource p).mapError .ofDiscovery) := by
  match hhits : s.resourceHits p with
  | [] =>
    have hfor : s.resourceFor p = .error (.notFound p.render) := by rw [resourceFor, hhits]
    simp only [Discovery.lookupByResource, discovery, hfor, bind, Except.bind, Except.mapError,
      ResolveError.ofDiscovery]
    refine .none (Set.eq_empty_iff_forall_notMem.2 fun g hg => ?_)
    obtain ⟨t, ht, -⟩ := mem_groupsOf_iff.1 hg
    simp [hhits] at ht
  | [t] =>
    have hfor : s.resourceFor p = .ok t := by rw [resourceFor, hhits]
    obtain ⟨kind, mapping, -, -, hgv, hlookup⟩ := lookupByResource_of_hit hfor
    rw [hlookup]
    refine .one (g := t.group) (Set.ext fun g => ?_) (mem_resourceHits_iff.1 (by simp [hhits]))
      (congrArg GroupVersion.group hgv) (congrArg GroupVersion.version hgv)
    simp [mem_groupsOf_iff, hhits, eq_comm]
  | t :: u :: rest =>
    have htwo : 2 ≤ (s.resourceHits p).length := by simp [hhits]
    have hfor := resourceFor_of_two_le htwo
    simp only [Discovery.lookupByResource, discovery, hfor, bind, Except.bind, Except.mapError,
      ResolveError.ofDiscovery]
    refine .several ⟨t.group, ?_, u.group, ?_, ?_⟩ (onePerGroup_resourceHits s p)
    · exact mem_groupsOf_iff.2 ⟨t, by simp [hhits], rfl⟩
    · exact mem_groupsOf_iff.2 ⟨u, by simp [hhits], rfl⟩
    · have hgroups := pairwise_resourceHits (s := s) (p := p)
      rw [hhits, List.map_cons, List.nodup_cons] at hgroups
      exact fun same => hgroups.1 (by simp [same])

end Snapshot

namespace Snapshot.AnswerByWord

theorem notFound_iff (h : s.AnswerByWord p answer) :
    (∃ what, answer = .error (.notFound what)) ↔ s.groupsOf p = ∅ := by
  cases h with
  | none hnone => simp [hnone]
  | one hone => simp [hone]
  | several hseveral => simp [hseveral.nonempty.ne_empty]

theorem ambiguous_iff (h : s.AnswerByWord p answer) :
    (∃ what candidates, answer = .error (.ambiguous what candidates)) ↔ (s.groupsOf p).Nontrivial := by
  cases h with
  | none hnone => simp [hnone]
  | one hone => simp [hone]
  | several hseveral => simp [hseveral]

theorem ok_iff (h : s.AnswerByWord p answer) : (∃ r, answer = .ok r) ↔ ∃ g, s.groupsOf p = {g} := by
  cases h with
  | none hnone => simp [hnone, eq_comm]
  | one hone => simp [hone]
  | several hseveral =>
    have hno : ∀ g, s.groupsOf p ≠ {g} := fun g hone => by simp [hone] at hseveral
    simp [hno]

end Snapshot.AnswerByWord

/-- What an exact resolution answers for a word without a kind. With a hit, the look-up does not fail on the way from
the name to the kind and back to a type. -/
theorem exact_by_word_iff (hkind : id.kind? = none) (hword : id.resource? = some word)
    (hversion : id.explicitVersion = .ok version) :
    ((∃ what, s.discovery.resolveExact id = .error (.notFound what)) ↔ s.groupsOf (id.lookup version word) = ∅) ∧
    ((∃ what candidates, s.discovery.resolveExact id = .error (.ambiguous what candidates)) ↔
      (s.groupsOf (id.lookup version word)).Nontrivial) ∧
    ((∃ r, s.discovery.resolveExact id = .ok r) ↔ ∃ g, s.groupsOf (id.lookup version word) = {g}) ∧
    s.AnswerByWord (id.lookup version word) (s.discovery.resolveExact id) ∧
    ∀ t, s.resourceFor (id.lookup version word) = .ok t → ∃ kind mapping, s.kindFor t = .ok kind ∧
      s.restMapping kind.groupKind (some kind.version) = .ok mapping := by
  have answer := answerByWord_lookup s (id.lookup version word)
  rw [← Discovery.resolveExact_of_word hkind hword hversion] at answer
  refine ⟨answer.notFound_iff, answer.ambiguous_iff, answer.ok_iff, answer, fun t hfor => ?_⟩
  obtain ⟨kind, mapping, hkindFor, hmapping, -⟩ := lookupByResource_of_hit hfor
  exact ⟨kind, mapping, hkindFor, hmapping⟩

/-- A group whose preferred version has only a part of the type, beside a list that does not parse and another
group. -/
def splitWidgets : Snapshot :=
  { lists :=
      [⟨"apps//v3", [⟨"widgets", "widget", true, "Widget", [], []⟩]⟩,
        ⟨"apps/v2", [⟨"widgets/status", "widget", true, "Widget", [], []⟩]⟩,
        ⟨"apps/v1", [⟨"widgets", "widget", true, "Widget", [], []⟩]⟩,
        ⟨"shop/v1", [⟨"widgets", "widget", false, "Widget", [], []⟩]⟩]
    failedGroups := [] }

/-- With a group the word has one group, and without it two. -/
theorem exact_by_word_widgets :
    splitWidgets.discovery.resolveExact ⟨none, none, some "widget.apps", none⟩ =
        .ok ⟨⟨"apps", "v1", "widgets"⟩, true⟩ ∧
      splitWidgets.groupsOf ⟨some "apps", none, "widget"⟩ = {"apps"} ∧
      splitWidgets.discovery.resolveExact ⟨none, none, some "widget", none⟩ =
        .error (.ambiguous "resource \"widget\"" ["apps/v1/widgets", "shop/v1/widgets"]) ∧
      (splitWidgets.groupsOf ⟨none, none, "widget"⟩).Nontrivial := by
  have resolved : splitWidgets.discovery.resolveExact ⟨none, none, some "widget.apps", none⟩ =
      .ok ⟨⟨"apps", "v1", "widgets"⟩, true⟩ := by rfl
  have sorted : sortTexts ["apps/v1/widgets", "shop/v1/widgets"] = ["apps/v1/widgets", "shop/v1/widgets"] :=
    sortTexts_eq (.refl _) (by decide +kernel)
  have ambiguous : splitWidgets.discovery.resolveExact ⟨none, none, some "widget", none⟩ =
      .error (.ambiguous "resource \"widget\"" (sortTexts ["apps/v1/widgets", "shop/v1/widgets"])) := by rfl
  have unversioned (word : String) : Identifier.explicitVersion ⟨none, none, some word, none⟩ = .ok none := rfl
  obtain ⟨g, one⟩ := (exact_by_word_iff rfl (by rfl) (unversioned "widget.apps")).2.2.1.1 ⟨_, resolved⟩
  have several := (exact_by_word_iff rfl (by rfl) (unversioned "widget")).2.1.1 ⟨_, _, ambiguous⟩
  have lookup : Identifier.lookup ⟨none, none, some "widget.apps", none⟩ none "widget.apps" =
      ⟨some "apps", none, "widget"⟩ := by rfl
  rw [lookup] at one
  have apps : "apps" ∈ splitWidgets.groupsOf ⟨some "apps", none, "widget"⟩ :=
    ⟨_, List.mem_of_getElem? (i := 2) rfl, by decide +kernel⟩
  obtain rfl : "apps" = g := by simpa [one] using apps
  rw [sorted] at ambiguous
  exact ⟨resolved, one, ambiguous, several⟩

end Periscope
