import Periscope.Proofs.Resolution.Candidates
import Periscope.Proofs.Resolution.Naming
import Periscope.Proofs.Resource.GroupVersion

/-!
# What an ambiguity reports

The candidates of an ambiguity come from the hits of a direct look-up or from a scan. Either way they are the texts
of different types that fit the identifier, in strictly increasing order, and an exact resolution can be asked for
each of them. Main result: `ambiguity_reports_types`.
-/

namespace Periscope

open Snapshot

variable {s : Snapshot} {id : Identifier} {what : String} {candidates : List String} {word? : Option String}

/-- An entry is what is looked for: it answers to the word if there is one, and else is of the kind. -/
def Identifier.Seeks (id : Identifier) (word? : Option String) (e : ResourceEntry) : Prop :=
  match word? with
  | some word => e.answersTo word
  | none => id.kind? = some e.kind

/-- The candidates are the sorted texts of several different types that the identifier may mean. -/
structure Snapshot.Reported (s : Snapshot) (id : Identifier) (word? : Option String) (candidates : List String)
    (types : List GroupVersionResource) : Prop where
  several : 2 ≤ types.length
  different : types.Pairwise (· ≠ ·)
  texts : candidates = sortTexts (types.map GroupVersionResource.render)
  sought : ∀ t ∈ types, ∃ e ∈ s.typesOf t.groupVersion, e.name = t.resource ∧
    (∀ g ∈ id.statedGroup?, t.group = g) ∧ id.Seeks word? e

/-! ## Direct look-ups -/

namespace Snapshot

/-- Only the first step of a direct look-up is ambiguous. -/
theorem lookupByResource_ambiguous {p : PartialResource}
    (h : s.discovery.lookupByResource p = .error (.ambiguous what candidates)) :
    s.resourceFor p = .error (.ambiguous what candidates) := by
  simp only [Discovery.lookupByResource, discovery, bind, Except.bind] at h
  split at h
  · next e he =>
    cases h
    exact he
  · split at h
    · next e he =>
      cases h
      simp only [kindFor] at he
      split at he <;> cases he
    · split at h
      · next e he =>
        cases h
        simp only [restMapping] at he
        split at he <;> cases he
      · cases h

theorem lookupByKind_ne_ambiguous (id : Identifier) (version : Option GroupVersion) :
    s.discovery.lookupByKind id version ≠ .error (.ambiguous what candidates) := by
  intro h
  simp only [Discovery.lookupByKind, discovery] at h
  split at h
  · cases h
  · split at h
    · cases h
    · next e he =>
      simp only [restMapping] at he
      split at he
      · cases he
      · cases he
        cases h

/-- An exact resolution is ambiguous only where the look-up of its word has several hits. -/
theorem resolveExact_ambiguous (h : s.discovery.resolveExact id = .error (.ambiguous what candidates)) :
    ∃ version raw, id.explicitVersion = .ok version ∧ id.resource? = some raw ∧
      s.resourceFor (id.lookup version raw) = .error (.ambiguous what candidates) := by
  simp only [Discovery.resolveExact, bind, Except.bind] at h
  split at h
  · next e he =>
    cases h
    unfold Identifier.explicitVersion at he
    split at he
    · cases he
    · split at he <;> cases he
  · next version hversion =>
    split at h
    · exact absurd h (lookupByKind_ne_ambiguous id version)
    · next raw hraw =>
      split at h
      · cases h
      · cases h
      · next e _ he =>
        split at h
        · cases e with
          | ambiguous query candidates' =>
            cases h
            exact ⟨version, raw, hversion, hraw, lookupByResource_ambiguous he⟩
          | _ => cases h
        · exact absurd h (lookupByKind_ne_ambiguous id version)

/-- The hits of an ambiguous look-up are of several groups, so that no group was asked for. -/
theorem resolveExact_reported (hword : id.exactWord? = word?)
    (h : s.discovery.resolveExact id = .error (.ambiguous what candidates)) :
    id.apiVersion? = none ∧ ∃ types, s.Reported id word? candidates types := by
  obtain ⟨version, raw, hversion, hraw, hfor⟩ := resolveExact_ambiguous h
  obtain ⟨hseveral, htexts⟩ := two_le_of_resourceFor hfor
  have hgroup : (id.lookup version raw).group = none := by
    cases hg : (id.lookup version raw).group with
    | none => rfl
    | some g => exact absurd hseveral (by have := length_resourceHits_le (s := s) hg; omega)
  obtain ⟨rfl, hstated⟩ : version = none ∧ id.statedGroup? = none := by
    cases version with
    | none => exact ⟨rfl, by simpa [Identifier.lookup] using hgroup⟩
    | some v => cases hgroup
  have hapi : id.apiVersion? = none := by
    refine Option.eq_none_iff_forall_ne_some.2 fun text htext => ?_
    obtain ⟨v, hv, -⟩ := (Identifier.explicitVersion_ok hversion).1 text htext
    cases hv
  obtain ⟨word, hsome⟩ : ∃ word, id.exactWord? = some word := by simp [Identifier.exactWord?, hraw]
  obtain rfl : word? = some word := hword.symm.trans hsome
  refine ⟨hapi, s.resourceHits (id.lookup none raw), hseveral, ?_, htexts, fun t ht => ?_⟩
  · exact pairwise_firstPerGroup.imp fun hne heq => hne (congrArg _ heq)
  · obtain ⟨-, -, e, he, hname⟩ := mem_resourceHits ht
    refine ⟨e, List.mem_of_find?_eq_some he, hname, by simp [hstated], ?_⟩
    rw [Identifier.lookup_resource hraw hversion hsome] at he
    exact answersTo_of_isNamed (Identifier.exactWord?_ne_empty hsome) (List.find?_some he)

end Snapshot

/-! ## Scans -/

namespace Snapshot

/-- The label of a candidate is the text of its type. -/
theorem label_eq_render {l : ResourceList} {c : Candidate} (h : c ∈ id.listCandidates l) :
    c.label = c.resolved.type.render := by
  obtain ⟨gv, e, hgv, -, -, -, rfl⟩ := Identifier.mem_listCandidates h
  have htext : gv.render = l.groupVersion := GroupVersion.render_of_ofText? hgv
  rw [Candidate.label, ← htext]
  rfl

theorem map_label_candidates (id : Identifier) (s : Snapshot) :
    (id.candidates s.preferred.lists).map Candidate.label =
      ((id.candidates s.preferred.lists).map (·.resolved.type)).map GroupVersionResource.render := by
  rw [List.map_map]
  refine List.map_congr_left fun c hc => ?_
  obtain ⟨l, -, hcl⟩ := List.mem_flatMap.1 (Identifier.mem_of_mem_firstPerType hc)
  exact label_eq_render hcl

theorem scan_reported (hgroup : id.group? = id.statedGroup?)
    (h : s.discovery.scan id = .error (.ambiguous what candidates)) :
    ∃ types, s.Reported id id.resource? candidates types := by
  simp only [Discovery.scan, discovery] at h
  split at h
  · cases h
  · obtain ⟨hseveral, htexts⟩ := Identifier.choose_ambiguous h
    have hlisted : ∀ c ∈ id.candidates s.preferred.lists, ∃ l ∈ s.lists, c ∈ id.listCandidates l := by
      intro c hc
      obtain ⟨l, hl, hcl⟩ := List.mem_flatMap.1 (Identifier.mem_of_mem_firstPerType hc)
      exact ⟨l, mem_preferred hl, hcl⟩
    refine ⟨(id.candidates s.preferred.lists).map fun c => c.resolved.type, by simpa using hseveral, ?_, ?_, ?_⟩
    · exact List.pairwise_map.2 Identifier.pairwise_firstPerType
    · rw [htexts, map_label_candidates]
    · intro t ht
      obtain ⟨c, hc, rfl⟩ := List.mem_map.1 ht
      obtain ⟨l, hl, hcl⟩ := hlisted c hc
      obtain ⟨gv, e, hgv, he, hasked, hfits, rfl⟩ := Identifier.mem_listCandidates hcl
      simp only [Identifier.fits, Bool.and_eq_true, Bool.not_eq_true'] at hfits
      refine ⟨e, mem_typesOf.2 ⟨l, hl, hgv, he, hfits.1⟩, rfl, fun g hg => (hasked g (hgroup ▸ hg)).symm, ?_⟩
      have hmatch := hfits.2
      cases hword : id.resource? with
      | some word => simpa [hword, Identifier.Seeks] using hmatch
      | none =>
        cases hkind : id.kind? with
        | some kind =>
          simp only [hword, hkind, beq_iff_eq] at hmatch
          simp [Identifier.Seeks, hkind, hmatch]
        | none => simp [hword, hkind] at hmatch

/-- Best effort is ambiguous only where its scan is. -/
theorem bestEffort_reported (hword : id.bestEffortWord? = word?)
    (h : s.discovery.resolveBestEffort id = .error (.ambiguous what candidates)) :
    ∃ types, s.Reported id word? candidates types := by
  have hscan : s.discovery.scan id.normalized = .error (.ambiguous what candidates) := by
    simp only [Discovery.resolveBestEffort] at h
    split at h
    · split at h
      · cases h
      · next e he =>
        split at h
        · next hfinal =>
          -- a version makes an ambiguity final, and keeps an exact resolution from being ambiguous
          cases h
          have hapi := (resolveExact_reported rfl he).1
          simp [Identifier.isFinal, hapi] at hfinal
        · exact h
    · exact h
  have hgroup : id.normalized.group? = id.normalized.statedGroup? := by
    rw [← Identifier.normalized_group?, Identifier.normalized_normalized]
  obtain ⟨types, hreported⟩ := scan_reported hgroup hscan
  refine ⟨types, hreported.several, hreported.different, hreported.texts, fun t ht => ?_⟩
  obtain ⟨e, he, hname, hasked, hseeks⟩ := hreported.sought t ht
  refine ⟨e, he, hname, by rwa [← hgroup, Identifier.normalized_group?] at hasked, ?_⟩
  have hsplit : id.normalized.resource? = word? := hword
  rw [hsplit] at hseeks
  cases word? <;> simpa [Identifier.Seeks] using hseeks

end Snapshot

/-! ## Texts -/

theorem Snapshot.readable_of_mem_typesOf {t : GroupVersionResource} {e : ResourceEntry}
    (he : e ∈ s.typesOf t.groupVersion) (hname : e.name = t.resource) : t.Readable := by
  obtain ⟨l, -, hgv, -, hsub⟩ := mem_typesOf.1 he
  refine ⟨?_, by simpa [ResourceEntry.isSubresource, hname] using hsub⟩
  rw [GroupVersion.render_of_ofText? hgv]
  exact hgv

/-- An ambiguous resolution reports at least two candidates, strictly increasing by their bytes. Each is the text
`<groupVersion>/<name>` of a proper type that is listed in the snapshot, in the group that the identifier carries, and
that answers to the word that was looked for, or is of the kind where there is no word. An exact resolution of the
candidate's own group version and name has an answer of that group version. -/
theorem ambiguity_reports_types
    (h : id.exactWord? = word? ∧ s.discovery.resolveExact id = .error (.ambiguous what candidates) ∨
      id.bestEffortWord? = word? ∧ s.discovery.resolveBestEffort id = .error (.ambiguous what candidates)) :
    2 ≤ candidates.length ∧
      candidates.Pairwise (fun a b => a.toUTF8.data.toList < b.toUTF8.data.toList) ∧
      ∀ label ∈ candidates, ∃ l ∈ s.lists, ∃ gv, l.parsed? = some gv ∧ ∃ e ∈ l.resources,
        e.isSubresource = false ∧ label = l.groupVersion ++ "/" ++ e.name ∧
        (∀ g ∈ id.statedGroup?, gv.group = g) ∧ id.Seeks word? e ∧
        (e.name ≠ "" → ∃ r, s.discovery.resolveExact ⟨some l.groupVersion, none, some e.name, none⟩ = .ok r ∧
          r.type.groupVersion = gv) := by
  obtain ⟨types, hreported⟩ : ∃ types, s.Reported id word? candidates types := by
    rcases h with ⟨hword, h⟩ | ⟨hword, h⟩
    · exact (resolveExact_reported hword h).2
    · exact bestEffort_reported hword h
  have hreadable : ∀ t ∈ types, t.Readable := by
    intro t ht
    obtain ⟨e, he, hname, -⟩ := hreported.sought t ht
    exact readable_of_mem_typesOf he hname
  have hdistinct := GroupVersionResource.nodup_map_render hreadable hreported.different
  rw [hreported.texts]
  refine ⟨by simpa [(sortTexts_perm _).length_eq] using hreported.several, sortTexts_strict hdistinct, ?_⟩
  intro label hlabel
  obtain ⟨t, ht, rfl⟩ := List.mem_map.1 ((sortTexts_perm _).mem_iff.1 hlabel)
  obtain ⟨e, he, hname, hasked, hseeks⟩ := hreported.sought t ht
  obtain ⟨l, hl, hgv, hel, hsub⟩ := mem_typesOf.1 he
  refine ⟨l, hl, t.groupVersion, hgv, e, hel, hsub, ?_, hasked, hseeks, fun hne => ?_⟩
  · rw [GroupVersionResource.render, GroupVersion.render_of_ofText? hgv, hname]
  · have hnamed : isNamed e.name e := by simp [isNamed]
    obtain ⟨e', he'⟩ := exists_typeFor? he hnamed
    exact ⟨_, (resolveExact_of_typeFor? hgv hne he').2, rfl⟩

/-- Two groups with events. -/
def eventGroups : Snapshot :=
  { lists :=
      [⟨"v1", [⟨"events", "event", true, "Event", ["ev"], []⟩]⟩,
        ⟨"events.k8s.io/v1", [⟨"events", "event", true, "Event", ["ev"], []⟩]⟩]
    failedGroups := [] }

/-- A short name of both leads to two candidates, and each can be asked for. -/
theorem ambiguity_reports_types_events :
    Identifier.bestEffortWord? ⟨none, none, some "ev", none⟩ = some "ev" ∧
      eventGroups.discovery.resolveBestEffort ⟨none, none, some "ev", none⟩ =
        .error (.ambiguous "resource \"ev\"" ["events.k8s.io/v1/events", "v1/events"]) ∧
      ∀ label ∈ ["events.k8s.io/v1/events", "v1/events"], ∃ l ∈ eventGroups.lists, ∃ gv, l.parsed? = some gv ∧
        ∃ e ∈ l.resources, label = l.groupVersion ++ "/" ++ e.name ∧ e.answersTo "ev" ∧
          (e.name ≠ "" →
            ∃ r, eventGroups.discovery.resolveExact ⟨some l.groupVersion, none, some e.name, none⟩ = .ok r ∧
              r.type.groupVersion = gv) := by
  have sorted : sortTexts ["v1/events", "events.k8s.io/v1/events"] = ["events.k8s.io/v1/events", "v1/events"] :=
    sortTexts_eq (.swap _ _ _) (by decide +kernel)
  have ambiguous : eventGroups.discovery.resolveBestEffort ⟨none, none, some "ev", none⟩ =
      .error (.ambiguous "resource \"ev\"" (sortTexts ["v1/events", "events.k8s.io/v1/events"])) := by rfl
  rw [sorted] at ambiguous
  have word : Identifier.bestEffortWord? ⟨none, none, some "ev", none⟩ = some "ev" := by rfl
  refine ⟨word, ambiguous, fun label hlabel => ?_⟩
  obtain ⟨l, hl, gv, hgv, e, he, -, htext, -, hseeks, hasked⟩ :=
    (ambiguity_reports_types (.inr ⟨word, ambiguous⟩)).2.2 label hlabel
  exact ⟨l, hl, gv, hgv, e, he, htext, hseeks, hasked⟩

end Periscope
