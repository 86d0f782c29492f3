import Periscope.Proofs.Resolution.Candidates

/-!
# Ambiguous words

A word that names types of several groups is ambiguous to an exact look-up, and best effort goes on from there:
a kind that the core group has settles it, and so does a scan in which a single type is offered for the word.
Main result: `bestEffort_ambiguous_iff`, which says when the ambiguity is reported.
-/

namespace Periscope

open Snapshot

variable {s : Snapshot} {id : Identifier} {word group group' : String}

namespace Snapshot

/-- A group has a proper type whose plural or singular name is the word. -/
def Names (s : Snapshot) (group word : String) : Prop :=
  ∃ gv, gv.group = group ∧ ∃ e ∈ s.typesOf gv, isNamed word e

theorem names_of_any (gv : GroupVersion) (h : (s.typesOf gv).any (isNamed word)) : s.Names gv.group word := by
  obtain ⟨e, he, hnamed⟩ := List.any_eq_true.1 h
  exact ⟨gv, rfl, e, he, hnamed⟩

/-- The core group has a proper type of the kind. -/
def HasCoreKind (s : Snapshot) (kind : String) : Prop :=
  ∃ gv, gv.group = "" ∧ ∃ e ∈ s.typesOf gv, e.kind = kind

/-- The preferred version of a group offers the type for the word. -/
def Offers (s : Snapshot) (word : String) (t : GroupVersionResource) : Prop :=
  ∃ l ∈ s.preferred.lists, l.parsed? = some t.groupVersion ∧
    ∃ e ∈ l.resources, e.isSubresource = false ∧ e.name = t.resource ∧ e.answersTo word

end Snapshot

namespace Identifier

/-- Without a group every entry of a list that answers to the word is a candidate. -/
theorem mem_listCandidates_iff {l : ResourceList} {c : Candidate} (hgroup : id.group? = none)
    (hword : id.resource? = some word) : c ∈ id.listCandidates l ↔
      ∃ gv, l.parsed? = some gv ∧ ∃ e ∈ l.resources, e.isSubresource = false ∧ e.answersTo word ∧
        c = ⟨(mappingOf gv e).resolved, l.groupVersion⟩ := by
  constructor
  · intro h
    obtain ⟨gv, e, hgv, he, -, hfits, rfl⟩ := mem_listCandidates h
    simp only [fits, hword, Bool.and_eq_true, Bool.not_eq_true'] at hfits
    exact ⟨gv, hgv, e, he, hfits.1, hfits.2, rfl⟩
  · rintro ⟨gv, hgv, e, he, hsub, hanswers, rfl⟩
    simp only [listCandidates, hgv, hgroup, Option.all_none, ↓reduceIte, List.mem_map, List.mem_filter]
    exact ⟨e, ⟨he, by simp [fits, hword, hsub, hanswers]⟩, rfl⟩

end Identifier

/-! ## The scan -/

/-- Without a group a scan is ambiguous exactly when two types are offered for the word. -/
theorem Snapshot.scan_ambiguous_iff (hgroup : id.group? = none) (hword : id.resource? = some word) :
    (∃ what labels, s.discovery.scan id = .error (.ambiguous what labels)) ↔
      ∃ t t', t ≠ t' ∧ s.Offers word t ∧ s.Offers word t' := by
  have hscan : s.discovery.scan id = id.choose (id.candidates s.preferred.lists) := by
    simp [Discovery.scan, hword, discovery]
  have hmem : ∀ t, (∃ c ∈ s.preferred.lists.flatMap id.listCandidates, c.resolved.type = t) ↔
      s.Offers word t := by
    intro t
    simp only [List.mem_flatMap, Identifier.mem_listCandidates_iff hgroup hword]
    constructor
    · rintro ⟨_, ⟨l, hl, gv, hgv, e, he, hsub, hanswers, rfl⟩, rfl⟩
      exact ⟨l, hl, hgv, e, he, hsub, rfl, hanswers⟩
    · rintro ⟨l, hl, hgv, e, he, hsub, hname, hanswers⟩
      refine ⟨_, ⟨l, hl, _, hgv, e, he, hsub, hanswers, rfl⟩, ?_⟩
      cases t
      cases hname
      rfl
  rw [hscan, Identifier.choose_ambiguous_iff, Identifier.candidates, Identifier.two_le_length_firstPerType]
  constructor
  · rintro ⟨c, hc, c', hc', hne⟩
    exact ⟨_, _, hne, (hmem _).1 ⟨c, hc, rfl⟩, (hmem _).1 ⟨c', hc', rfl⟩⟩
  · rintro ⟨t, t', hne, ht, ht'⟩
    obtain ⟨c, hc, rfl⟩ := (hmem t).2 ht
    obtain ⟨c', hc', rfl⟩ := (hmem t').2 ht'
    exact ⟨c, hc, c', hc', hne⟩

/-! ## Best effort -/

namespace Snapshot

/-- Without a version and a group a kind is looked up in the core group. -/
theorem lookupByKind_isOk_iff {kind : String} (hgroup : id.statedGroup? = none)
    (hkind : id.kind? = some kind) :
    (∃ r, s.discovery.lookupByKind id none = .ok r) ↔ s.HasCoreKind kind := by
  constructor
  · rintro ⟨r, h⟩
    obtain ⟨kind', m, hkind', -, hm⟩ := Discovery.lookupByKind_ok h
    obtain rfl : kind' = kind := Option.some.inj (hkind'.symm.trans hkind)
    obtain ⟨gv, e, hgv, -, he, -⟩ := restMapping_ok (s := s) hm
    exact ⟨gv, by simpa [hgroup] using hgv, e, List.mem_of_find?_eq_some he, by simpa using List.find?_some he⟩
  · rintro ⟨gv, hgv, e, he, hekind⟩
    obtain ⟨m, hm⟩ := exists_restMapping (k := ⟨"", kind⟩) hgv (by simp : ∀ v ∈ none, v = gv.version) he hekind
    exact ⟨m.resolved, by simp [Discovery.lookupByKind, hkind, hgroup, discovery, hm]⟩

/-- A kind that is looked up is found or not, and never ambiguous. -/
theorem lookupByKind_error {version : Option GroupVersion} {kind : String} {e : ResolveError}
    (hkind : id.kind? = some kind) (h : s.discovery.lookupByKind id version = .error e) :
    ∃ what, e = .notFound what := by
  simp only [Discovery.lookupByKind, hkind, discovery] at h
  split at h
  · cases h
  · next e' he' =>
    simp only [restMapping] at he'
    split at he'
    · cases he'
    · cases he'
      cases h
      exact ⟨_, rfl⟩

/-- A word that names types of two groups misses in an exact resolution, and a kind is looked up instead. -/
theorem resolveExact_of_names (hversion : id.apiVersion? = none) (hgroup : id.statedGroup? = none)
    (hword : id.normalized.resource? = some word) (hne : group ≠ group')
    (hnames : s.Names group word) (hnames' : s.Names group' word) :
    ∃ query candidates, s.discovery.resolveExact id.normalized =
      if id.kind?.isNone then .error (.ambiguous query candidates)
      else s.discovery.lookupByKind id.normalized none := by
  obtain ⟨gv, rfl, e, he, hnamed⟩ := hnames
  obtain ⟨gv', rfl, e', he', hnamed'⟩ := hnames'
  obtain ⟨candidates, hlookup⟩ :=
    resourceFor_ambiguous (p := ⟨none, none, word⟩) rfl rfl hne he hnamed he' hnamed'
  have hasked : id.normalized.lookup none word = ⟨none, none, word⟩ := by
    simp [Identifier.lookup, Identifier.normalized_normalized, hgroup, hword]
  refine ⟨PartialResource.render ⟨none, none, word⟩, candidates, ?_⟩
  simp only [Discovery.resolveExact, Identifier.explicitVersion, Identifier.normalized_apiVersion?, hversion,
    bind, Except.bind, hword, hasked, Discovery.lookupByResource, discovery, hlookup,
    Identifier.normalized_kind?, ResolveError.ofDiscovery]

end Snapshot

/-- When best effort reports a word that names types of two groups: no given kind is one of the core group, and two
types of preferred versions answer to the word. -/
theorem bestEffort_ambiguous_iff (hversion : id.apiVersion? = none) (hgroup : id.normalized.group? = none)
    (hword : id.normalized.resource? = some word) (hne : group ≠ group')
    (hnames : s.Names group word) (hnames' : s.Names group' word) :
    (∃ what candidates, s.discovery.resolveBestEffort id = .error (.ambiguous what candidates)) ↔
      (∀ kind ∈ id.kind?, ¬s.HasCoreKind kind) ∧
        ∃ t t', t ≠ t' ∧ s.Offers word t ∧ s.Offers word t' := by
  have hstated : id.statedGroup? = none := by rw [← Identifier.normalized_group?, hgroup]
  have hstated' : id.normalized.statedGroup? = none := by
    rw [← Identifier.normalized_group?, Identifier.normalized_normalized, hgroup]
  obtain ⟨query, candidates, hexact⟩ := resolveExact_of_names hversion hstated hword hne hnames hnames'
  have hscans : ∀ e, s.discovery.resolveExact id.normalized = .error e →
      id.normalized.isFinal e = false → s.discovery.resolveBestEffort id = s.discovery.scan id.normalized := by
    intro e he hfinal
    simp [Discovery.resolveBestEffort, hword, he, hfinal]
  rw [← scan_ambiguous_iff hgroup hword]
  cases hkind : id.kind? with
  | none =>
    rw [hkind] at hexact
    rw [hscans _ hexact (by simp [Identifier.isFinal, hversion])]
    simp
  | some kind =>
    have hkind' : id.normalized.kind? = some kind := by rw [Identifier.normalized_kind?, hkind]
    replace hexact : s.discovery.resolveExact id.normalized = s.discovery.lookupByKind id.normalized none := by
      simpa [hkind] using hexact
    have hcore := lookupByKind_isOk_iff (s := s) hstated' hkind'
    simp only [Option.mem_def, Option.some.injEq, forall_eq']
    cases hlookup : s.discovery.lookupByKind id.normalized none with
    | ok r =>
      rw [Discovery.resolveBestEffort_of_exact hword (hexact.trans hlookup)]
      simp [hcore.1 ⟨r, hlookup⟩]
    | error e =>
      obtain ⟨what, rfl⟩ := lookupByKind_error hkind' hlookup
      have hno : ¬s.HasCoreKind kind := by
        intro h
        obtain ⟨r, hr⟩ := hcore.2 h
        rw [hlookup] at hr
        cases hr
      rw [hscans _ (hexact.trans hlookup) (by simp [Identifier.isFinal, hversion])]
      simp [hno]

/-- Two groups whose preferred versions both have a type of the name. -/
def twoWidgets : Snapshot :=
  { lists :=
      [⟨"alpha.example.com/v1", [⟨"widgets", "widget", true, "Widget", [], []⟩]⟩,
        ⟨"beta.example.com/v1", [⟨"widgets", "widget", false, "Widget", [], []⟩]⟩]
    failedGroups := [] }

theorem bestEffort_ambiguous_widgets :
    twoWidgets.Names "alpha.example.com" "widget" ∧ twoWidgets.Names "beta.example.com" "widget" ∧
      (∃ what candidates, twoWidgets.discovery.resolveBestEffort ⟨none, some "Widget", some "widget", none⟩ =
        .error (.ambiguous what candidates)) ∧
      ¬twoWidgets.HasCoreKind "Widget" ∧
      ∃ t t', t ≠ t' ∧ twoWidgets.Offers "widget" t ∧ twoWidgets.Offers "widget" t' := by
  have halpha : twoWidgets.Names "alpha.example.com" "widget" :=
    names_of_any ⟨"alpha.example.com", "v1"⟩ (by decide +kernel)
  have hbeta : twoWidgets.Names "beta.example.com" "widget" :=
    names_of_any ⟨"beta.example.com", "v1"⟩ (by decide +kernel)
  have hambiguous : ∃ what candidates, twoWidgets.discovery.resolveBestEffort
      ⟨none, some "Widget", some "widget", none⟩ = .error (.ambiguous what candidates) := ⟨_, _, by rfl⟩
  obtain ⟨hcore, hoffers⟩ := (bestEffort_ambiguous_iff rfl (by rfl) (by rfl) (by decide) halpha hbeta).1 hambiguous
  exact ⟨halpha, hbeta, hambiguous, hcore "Widget" rfl, hoffers⟩

/-- Two groups with a type of one name, of which the second has it only in a version that is not preferred. -/
def retiredEvents : Snapshot :=
  { lists :=
      [⟨"v1", [⟨"events", "event", true, "Event", ["ev"], []⟩]⟩,
        ⟨"events.k8s.io/v1", []⟩,
        ⟨"events.k8s.io/v1beta1", [⟨"events", "event", true, "Event", ["ev"], []⟩]⟩]
    failedGroups := [] }

/-- Two groups whose preferred versions both have a type of one name, and one of them is the core group. -/
def twoEvents : Snapshot :=
  { lists :=
      [⟨"v1", [⟨"events", "event", true, "Event", ["ev"], []⟩]⟩,
        ⟨"events.k8s.io/v1", [⟨"events", "event", true, "Event", ["ev"], []⟩]⟩]
    failedGroups := [] }

/-- A word that is ambiguous to an exact resolution is settled by the preferred versions, and by a kind in favour of
the core group. -/
theorem ambiguity_settled_by_precedence :
    (retiredEvents.Names "" "events" ∧ retiredEvents.Names "events.k8s.io" "events" ∧
      (∃ what candidates, retiredEvents.discovery.resolveExact ⟨none, none, some "events", none⟩ =
        .error (.ambiguous what candidates)) ∧
      retiredEvents.discovery.resolveBestEffort ⟨none, none, some "events", none⟩ =
        .ok ⟨⟨"", "v1", "events"⟩, true⟩) ∧
    (twoEvents.Names "" "events" ∧ twoEvents.Names "events.k8s.io" "events" ∧
      twoEvents.discovery.resolveBestEffort ⟨none, some "Event", some "events", none⟩ =
        .ok ⟨⟨"", "v1", "events"⟩, true⟩) :=
  ⟨⟨names_of_any ⟨"", "v1"⟩ (by decide +kernel), names_of_any ⟨"events.k8s.io", "v1beta1"⟩ (by decide +kernel),
      ⟨_, _, by rfl⟩, by rfl⟩,
    names_of_any ⟨"", "v1"⟩ (by decide +kernel), names_of_any ⟨"events.k8s.io", "v1"⟩ (by decide +kernel), by rfl⟩

end Periscope
