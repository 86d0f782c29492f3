import Periscope.Proofs.Resolution.Routes

/-!
# Soundness of resolution

What a resolution answers stands in the snapshot, and it honours everything that the identifier says. Main
result: `resolution_sound`.
-/

namespace Periscope

open Snapshot

variable {s : Snapshot} {id : Identifier} {r : ResolvedResource}

/-- The entry `e` stands in the snapshot for the type `r`: a list of the type's group version holds it, it is
no subresource, and it has the name and the scope of the type. -/
structure Snapshot.Lists (s : Snapshot) (r : ResolvedResource) (e : ResourceEntry) : Prop where
  listed : ∃ l ∈ s.lists, l.parsed? = some r.type.groupVersion ∧ e ∈ l.resources
  proper : e.isSubresource = false
  name : e.name = r.type.resource
  namespaced : e.namespaced = r.namespaced

/-- The type `r` with the entry `e` is one that the identifier allows. -/
structure Identifier.Allows (id : Identifier) (r : ResolvedResource) (e : ResourceEntry) : Prop where
  version : ∀ raw ∈ id.apiVersion?, GroupVersion.ofText? raw = some r.type.groupVersion
  group : id.apiVersion? = none → ∀ g ∈ id.statedGroup?, r.type.group = g
  kind : id.resource? = none → ∀ k ∈ id.kind?, e.kind = k

theorem Snapshot.lists_of_mem_typesOf {gv : GroupVersion} {e : ResourceEntry} (he : e ∈ s.typesOf gv) :
    s.Lists (mappingOf gv e).resolved e := by
  obtain ⟨l, hl, hgv, hel, hsub⟩ := mem_typesOf.1 he
  exact ⟨⟨l, hl, hgv, hel⟩, hsub, rfl, rfl⟩

namespace Identifier

/-- The version that is asked for, once it has been read. -/
theorem explicitVersion_ok {gv : Option GroupVersion} (h : id.explicitVersion = .ok gv) :
    (∀ raw ∈ id.apiVersion?, ∃ v, gv = some v ∧ GroupVersion.ofText? raw = some v) ∧
      (id.apiVersion? = none → gv = none) := by
  unfold explicitVersion at h
  split at h
  · next hnone =>
    cases h
    simp [hnone]
  · next raw hraw =>
    split at h
    · next v hv =>
      cases h
      simp [hraw, hv]
    · cases h

/-- A version or a group that narrows a look-up is honoured by the type it finds. -/
theorem allows_of_gv {gv : Option GroupVersion} {v : GroupVersion} {e : ResourceEntry}
    (hgv : id.explicitVersion = .ok gv) (hsome : ∀ w, gv = some w → v = w)
    (hnone : gv = none → ∀ g ∈ id.statedGroup?, v.group = g)
    (hkind : id.resource? = none → ∀ k ∈ id.kind?, e.kind = k) :
    id.Allows (mappingOf v e).resolved e := by
  obtain ⟨hraw, hno⟩ := explicitVersion_ok hgv
  refine ⟨fun raw h => ?_, fun h => hnone (hno h), hkind⟩
  obtain ⟨w, hw, hparse⟩ := hraw raw h
  rw [hparse, ← hsome w hw]
  rfl

/-- Splitting the resource word only tells more about what is asked for. -/
theorem Allows.of_normalized {e : ResourceEntry} (h : id.normalized.Allows r e) : id.Allows r e where
  version := by simpa using h.version
  group := by
    have hgroup := h.group
    rw [normalized_apiVersion?, ← normalized_group?, normalized_normalized] at hgroup
    simpa using hgroup
  kind := fun hno => by simpa using h.kind (normalized_resource?_of_none hno)

end Identifier

/-! ## The routes -/

theorem Snapshot.resolveExact_sound (h : s.discovery.resolveExact id = .ok r) :
    ∃ e, s.Lists r e ∧ id.Allows r e := by
  obtain ⟨gv, hgv, ⟨word, hword, h⟩ | h⟩ := Discovery.resolveExact_ok h
  · obtain ⟨v, e, hgroup, hversion, he, rfl⟩ := lookupByResource_ok h
    refine ⟨e, lists_of_mem_typesOf (mem_of_typeFor? he), Identifier.allows_of_gv hgv ?_ ?_ ?_⟩
    · rintro w rfl
      have hg := hgroup w.group rfl
      have hv := hversion w.version rfl
      cases w; cases v; cases hg; cases hv; rfl
    · rintro rfl g hg
      exact (hgroup g (by simpa [Identifier.lookup] using hg)).symm
    · intro hno
      rw [hno] at hword
      cases hword
  · obtain ⟨kind, m, hkind, rfl, hm⟩ := Discovery.lookupByKind_ok h
    obtain ⟨v, e, hgroup, hversion, he, rfl⟩ := restMapping_ok (s := s) hm
    refine ⟨e, lists_of_mem_typesOf (List.mem_of_find?_eq_some he), Identifier.allows_of_gv hgv ?_ ?_ ?_⟩
    · rintro w rfl
      have hv : w.version = v.version := hversion _ rfl
      cases w; cases v; cases hgroup; cases hv; rfl
    · rintro rfl g hg
      rw [Option.mem_def] at hg
      simpa [hg] using hgroup
    · intro _ k hk
      obtain rfl : kind = k := Option.some.inj (hkind.symm.trans hk)
      simpa using List.find?_some he

theorem Snapshot.scan_sound (hversion : id.apiVersion? = none) (hgroup : id.group? = id.statedGroup?)
    (h : s.discovery.scan id = .ok r) : ∃ e, s.Lists r e ∧ id.Allows r e := by
  obtain ⟨gv, e, he, hg, hfits, rfl⟩ := scan_ok h
  refine ⟨e, lists_of_mem_typesOf he, ?_, fun _ g h => (hg g (hgroup ▸ h)).symm, fun hno k hk => ?_⟩
  · simp [hversion]
  · rw [Option.mem_def] at hk
    simp only [Identifier.fits, hno, hk, Bool.and_eq_true, beq_iff_eq] at hfits
    exact hfits.2

/-- Whatever the lists of a snapshot are, an exact or a best-effort resolution answers a type that the snapshot
lists with that scope, and that the version, the group and the kind of the identifier allow. -/
theorem resolution_sound (h : s.discovery.resolveExact id = .ok r ∨ s.discovery.resolveBestEffort id = .ok r) :
    ∃ e, s.Lists r e ∧ id.Allows r e := by
  rcases h with h | h
  · exact resolveExact_sound h
  · rcases Discovery.resolveBestEffort_ok h with h | ⟨hversion, h⟩
    · obtain ⟨e, hlists, hallows⟩ := resolveExact_sound h
      exact ⟨e, hlists, hallows.of_normalized⟩
    · have hgroup : id.normalized.group? = id.normalized.statedGroup? := by
        rw [← Identifier.normalized_group?, Identifier.normalized_normalized]
      obtain ⟨e, hlists, hallows⟩ := scan_sound (by simpa using hversion) hgroup h
      exact ⟨e, hlists, hallows.of_normalized⟩

/-- Two lists, of which one has a group version that does not parse. -/
def workloads : Snapshot :=
  { lists :=
      [⟨"bad//version", [⟨"deployments", "deployment", false, "Deployment", [], []⟩]⟩,
        ⟨"apps/v1", [⟨"deployments", "deployment", true, "Deployment", ["deploy"], []⟩]⟩]
    failedGroups := [] }

/-- A type asked for by its version and its name, and one by a short name and its group. -/
theorem resolution_sound_short_name :
    (workloads.discovery.resolveExact ⟨some "apps/v1", none, some "deployments", none⟩ =
        .ok ⟨⟨"apps", "v1", "deployments"⟩, true⟩ ∧
      ∃ e, workloads.Lists ⟨⟨"apps", "v1", "deployments"⟩, true⟩ e ∧
        Identifier.Allows ⟨some "apps/v1", none, some "deployments", none⟩
          ⟨⟨"apps", "v1", "deployments"⟩, true⟩ e) ∧
    workloads.discovery.resolveBestEffort ⟨none, none, some "deploy.apps", none⟩ =
        .ok ⟨⟨"apps", "v1", "deployments"⟩, true⟩ ∧
      ∃ e, workloads.Lists ⟨⟨"apps", "v1", "deployments"⟩, true⟩ e ∧
        Identifier.Allows ⟨none, none, some "deploy.apps", none⟩ ⟨⟨"apps", "v1", "deployments"⟩, true⟩ e :=
  ⟨⟨by rfl, resolution_sound (.inl (by rfl))⟩, by rfl, resolution_sound (.inr (by rfl))⟩

end Periscope
