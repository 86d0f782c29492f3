import Periscope.Proofs.Discovery.Lookup
import Periscope.Proofs.Text.Split
import Periscope.Resolution.BestEffort

/-!
# The routes of a resolution

A resolution succeeds on one of three routes: a resource word that is looked up and led through its kind, a
kind, or a scan of the preferred versions. Each route ends at a proper type of a group version.
-/

namespace Periscope

open Text Snapshot

variable {s : Snapshot} {d : Discovery} {id : Identifier} {r : ResolvedResource}

/-! ## Identifiers -/

namespace Identifier

/-- The group that an identifier carries: its own, or else what stands behind the first dot of its resource
word. -/
def statedGroup? (id : Identifier) : Option String :=
  id.group?.or ((id.resource?.bind fun word => splitFirst? '.' word.toList).bind fun (_, group) =>
    nonEmpty (some (String.ofList group)))

@[simp] theorem normalized_apiVersion? : id.normalized.apiVersion? = id.apiVersion? := by
  unfold normalized
  split
  · rfl
  · split <;> rfl

@[simp] theorem normalized_kind? : id.normalized.kind? = id.kind? := by
  unfold normalized
  split
  · rfl
  · split <;> rfl

theorem normalized_of_group?_isSome (h : id.group?.isSome) : id.normalized = id := by
  simp [normalized, h]

/-- Only the group that an identifier carries is left after its resource word is split. -/
@[simp] theorem normalized_group? : id.normalized.group? = id.statedGroup? := by
  unfold normalized statedGroup?
  split
  · next h =>
    obtain ⟨g, hg⟩ := Option.isSome_iff_exists.1 h
    simp [hg]
  · next h =>
    have hnone : id.group? = none := by simpa using h
    rw [hnone, Option.none_or]
    split
    · next name group hsplit => rw [hsplit]; rfl
    · next hsplit => rw [hsplit, hnone]; rfl

theorem normalized_resource?_of_none (h : id.resource? = none) : id.normalized.resource? = none := by
  unfold normalized
  split
  · exact h
  · rw [h]; exact h

theorem resource_of_resource? {word : String} (h : id.resource? = some word) : id.resource = some word :=
  Option.eq_some_of_filter_eq_some h

theorem normalized_of_no_dot (h : ∀ word ∈ id.resource?, '.' ∉ word.toList) : id.normalized = id := by
  have hnone : id.resource?.bind (fun word => splitFirst? '.' word.toList) = none :=
    Option.bind_eq_none_iff.2 fun word hword => splitFirst?_eq_none.2 (h word hword)
  rw [normalized, hnone]
  split <;> rfl

theorem normalized_normalized : id.normalized.normalized = id.normalized := by
  by_cases hg : id.group?.isSome
  · rw [normalized_of_group?_isSome hg, normalized_of_group?_isSome hg]
  · cases hsplit : id.resource?.bind fun word => splitFirst? '.' word.toList with
    | none =>
      have hid : id.normalized = id := by simp [normalized, hg, hsplit]
      rw [hid, hid]
    | some parts =>
      obtain ⟨name, group⟩ := parts
      have hid : id.normalized =
          { id with resource := some (String.ofList name), group := some (String.ofList group) } := by
        simp [normalized, hg, hsplit]
      obtain ⟨word, -, hword⟩ := Option.bind_eq_some_iff.1 hsplit
      refine normalized_of_no_dot fun w hw => ?_
      rw [hid] at hw
      obtain rfl : String.ofList name = w := Option.some.inj (resource_of_resource? hw)
      rw [String.toList_ofList]
      exact (splitFirst?_eq_some.1 hword).2

end Identifier

/-! ## Exact look-ups -/

namespace Snapshot

/-- The type that a word leads to: the first type of the word has a name, the first type of that name has a
kind, and the first type of that kind is the answer. -/
def typeFor? (types : List ResourceEntry) (word : String) : Option ResourceEntry :=
  (types.find? (isNamed word)).bind fun hit =>
    (types.find? fun e => e.name == hit.name).bind fun first =>
      types.find? fun e => e.kind == first.kind

theorem mem_of_typeFor? {types : List ResourceEntry} {word : String} {e : ResourceEntry}
    (h : typeFor? types word = some e) : e ∈ types := by
  obtain ⟨hit, -, h⟩ := Option.bind_eq_some_iff.1 h
  obtain ⟨first, -, h⟩ := Option.bind_eq_some_iff.1 h
  exact List.mem_of_find?_eq_some h

/-- A word that a type has leads somewhere. -/
theorem exists_typeFor? {types : List ResourceEntry} {word : String} {e : ResourceEntry} (he : e ∈ types)
    (hnamed : isNamed word e) : ∃ e', typeFor? types word = some e' := by
  obtain ⟨hit, hhit⟩ : ∃ hit, types.find? (isNamed word) = some hit :=
    Option.isSome_iff_exists.1 (List.find?_isSome.2 ⟨e, he, hnamed⟩)
  obtain ⟨first, hfirst⟩ : ∃ first, (types.find? fun e => e.name == hit.name) = some first :=
    Option.isSome_iff_exists.1 (List.find?_isSome.2 ⟨hit, List.mem_of_find?_eq_some hhit, by simp⟩)
  obtain ⟨e', he'⟩ : ∃ e', (types.find? fun e => e.kind == first.kind) = some e' :=
    Option.isSome_iff_exists.1 (List.find?_isSome.2 ⟨first, List.mem_of_find?_eq_some hfirst, by simp⟩)
  exact ⟨e', by rw [typeFor?, hhit, Option.bind_some, hfirst, Option.bind_some, he']⟩

/-- A direct look-up ends where its word leads to in a group version that was asked for. -/
theorem lookupByResource_ok {p : PartialResource} (h : s.discovery.lookupByResource p = .ok r) :
    ∃ gv e, (∀ g ∈ p.group, g = gv.group) ∧ (∀ v ∈ p.version, v = gv.version) ∧
      typeFor? (s.typesOf gv) p.resource = some e ∧ r = (mappingOf gv e).resolved := by
  simp only [Discovery.lookupByResource, discovery, bind, Except.bind] at h
  split at h
  · cases h
  · next t ht =>
    obtain ⟨hgroup, hversion, hit, hhit, hname⟩ := resourceFor_ok ht
    have hslash : t.resource.toList.contains '/' = false := by
      obtain ⟨_, _, _, _, hsub⟩ := mem_typesOf.1 (List.mem_of_find?_eq_some hhit)
      rw [← hname]
      exact hsub
    rw [kindFor_eq hslash] at h
    split at h
    · cases h
    · next k hk =>
      split at hk
      · next first hfirst =>
        cases hk
        split at h
        · cases h
        · next m hm =>
          obtain ⟨gv, e, hgv, hv, he, rfl⟩ := restMapping_ok hm
          obtain rfl : t.groupVersion = gv := by
            have hv' : t.version = gv.version := hv _ rfl
            cases gv; cases hgv; cases hv'; rfl
          rw [← hname] at hfirst
          refine ⟨t.groupVersion, e, hgroup, hversion, ?_, by cases h; rfl⟩
          rw [typeFor?, hhit, Option.bind_some, hfirst, Option.bind_some]
          exact he
      · cases hk

/-- In a group version that has a type of the word a direct look-up ends where the word leads to. -/
theorem lookupByResource_of_typeFor? {gv : GroupVersion} {word : String} {e : ResourceEntry}
    (he : typeFor? (s.typesOf gv) word = some e) :
    s.discovery.lookupByResource ⟨some gv.group, some gv.version, word⟩ =
      .ok (mappingOf gv e).resolved := by
  obtain ⟨hit, hhit, he⟩ := Option.bind_eq_some_iff.1 he
  obtain ⟨first, hfirst, he⟩ := Option.bind_eq_some_iff.1 he
  have hslash : hit.name.toList.contains '/' = false := by
    obtain ⟨_, _, _, _, hsub⟩ := mem_typesOf.1 (List.mem_of_find?_eq_some hhit)
    exact hsub
  have hkind : s.kindFor ⟨gv.group, gv.version, hit.name⟩ = .ok ⟨gv.group, gv.version, first.kind⟩ := by
    rw [kindFor_eq hslash]
    have hfirst' : (s.typesOf (GroupVersionResource.groupVersion ⟨gv.group, gv.version, hit.name⟩)).find?
        (fun e => e.name == hit.name) = some first := hfirst
    rw [hfirst']
  simp [Discovery.lookupByResource, discovery, bind, Except.bind, resourceFor_of_find? hhit, hkind,
    GroupVersionKind.groupKind, restMapping_of_find? he]

end Snapshot

namespace Discovery

/-- Exact resolution succeeds by the resource word or by the kind. -/
theorem resolveExact_ok (h : d.resolveExact id = .ok r) :
    ∃ gv, id.explicitVersion = .ok gv ∧
      ((∃ word, id.resource? = some word ∧ d.lookupByResource (id.lookup gv word) = .ok r) ∨
        d.lookupByKind id gv = .ok r) := by
  simp only [resolveExact, bind, Except.bind] at h
  split at h
  · cases h
  · next gv hgv =>
    refine ⟨gv, hgv, ?_⟩
    split at h
    · exact .inr h
    · next word hword =>
      split at h
      · next resolved hlookup =>
        cases h
        exact .inl ⟨word, hword, hlookup⟩
      · cases h
      · split at h
        · cases h
        · exact .inr h

/-- The kind route takes the version that is asked for, or else the group that the identifier carries. -/
theorem lookupByKind_ok {gv : Option GroupVersion} (h : d.lookupByKind id gv = .ok r) :
    ∃ kind m, id.kind? = some kind ∧ r = m.resolved ∧
      d.restMapping ⟨gv.elim (id.statedGroup?.getD "") GroupVersion.group, kind⟩
        (gv.map GroupVersion.version) = .ok m := by
  simp only [lookupByKind] at h
  split at h
  · cases h
  · next kind hkind =>
    split at h
    · next m hm =>
      cases h
      refine ⟨kind, m, hkind, rfl, ?_⟩
      cases gv with
      | none => simpa using hm
      | some gv => exact hm
    · cases h

/-- Best effort succeeds by exact resolution or, without a version, by a scan. -/
theorem resolveBestEffort_ok (h : d.resolveBestEffort id = .ok r) :
    d.resolveExact id.normalized = .ok r ∨
      id.apiVersion? = none ∧ d.scan id.normalized = .ok r := by
  simp only [resolveBestEffort, Identifier.normalized_apiVersion?] at h
  split at h
  · split at h
    · next resolved hexact =>
      cases h
      exact .inl hexact
    · next e hexact =>
      split at h
      · cases h
      · next hfinal =>
        refine .inr ⟨?_, h⟩
        cases e <;> simp [Identifier.isFinal] at hfinal
        all_goals simpa using hfinal
  · next hno =>
    refine .inr ⟨?_, h⟩
    simp only [Bool.or_eq_true, not_or, Option.not_isSome_iff_eq_none] at hno
    exact hno.1

/-- Best effort takes what an exact resolution of the split identifier answers. -/
theorem resolveBestEffort_of_normalized (hset : id.apiVersion?.isSome ∨ id.normalized.resource?.isSome)
    (h : d.resolveExact id.normalized = .ok r) : d.resolveBestEffort id = .ok r := by
  have hset' : (id.normalized.apiVersion?.isSome || id.normalized.resource?.isSome) = true := by simpa using hset
  simp only [resolveBestEffort, hset', ↓reduceIte, h]

theorem resolveBestEffort_of_exact {word : String} (hword : id.normalized.resource? = some word)
    (h : d.resolveExact id.normalized = .ok r) : d.resolveBestEffort id = .ok r :=
  resolveBestEffort_of_normalized (.inr (by simp [hword])) h

end Discovery

/-! ## The scan -/

namespace Identifier

theorem mem_of_mem_firstPerType {cs : List Candidate} {c : Candidate} (h : c ∈ firstPerType cs) : c ∈ cs := by
  have key : ∀ kept : List Candidate, c ∈ cs.foldl
      (fun kept c => if kept.any fun k => k.resolved.type == c.resolved.type then kept else kept ++ [c])
      kept → c ∈ kept ∨ c ∈ cs := by
    clear h
    induction cs with
    | nil => intro kept h; exact .inl h
    | cons x rest ih =>
      intro kept h
      rcases ih _ h with h | h
      · dsimp only at h
        split at h
        · exact .inl h
        · rcases List.mem_append.1 h with h | h
          · exact .inl h
          · exact .inr (by simp_all)
      · exact .inr (List.mem_cons_of_mem _ h)
  exact (key [] h).resolve_left List.not_mem_nil

theorem choose_ok {cs : List Candidate} (h : id.choose cs = .ok r) : ∃ c, cs = [c] ∧ c.resolved = r := by
  unfold choose at h
  split at h
  · cases h
  · next c => exact ⟨c, rfl, by simpa using h⟩
  · cases h

theorem mem_listCandidates {l : ResourceList} {c : Candidate} (h : c ∈ id.listCandidates l) :
    ∃ gv e, l.parsed? = some gv ∧ e ∈ l.resources ∧ (∀ g ∈ id.group?, g = gv.group) ∧
      id.fits e ∧ c = ⟨(mappingOf gv e).resolved, l.groupVersion⟩ := by
  unfold listCandidates at h
  split at h
  · cases h
  · next gv hgv =>
    split at h
    · next hgroup =>
      obtain ⟨e, he, rfl⟩ := List.mem_map.1 h
      obtain ⟨he, hfits⟩ := List.mem_filter.1 he
      exact ⟨gv, e, hgv, he, by simpa [Option.all_eq_true] using hgroup, hfits, rfl⟩
    · cases h

end Identifier

theorem Snapshot.mem_preferred {l : ResourceList} (h : l ∈ s.preferred.lists) : l ∈ s.lists := by
  obtain ⟨⟨gv, l⟩, hmem, rfl⟩ := List.mem_map.1 h
  exact (mem_parsedLists.1 (mem_of_mem_firstPerGroup hmem)).1

/-- A scan ends at a type that fits, in a group version of the group that is asked for. -/
theorem Snapshot.scan_ok (h : s.discovery.scan id = .ok r) :
    ∃ gv e, e ∈ s.typesOf gv ∧ (∀ g ∈ id.group?, g = gv.group) ∧ id.fits e ∧
      r = (mappingOf gv e).resolved := by
  simp only [Discovery.scan, discovery] at h
  split at h
  · cases h
  · obtain ⟨c, hc, rfl⟩ := Identifier.choose_ok h
    have hmem : c ∈ s.preferred.lists.flatMap id.listCandidates :=
      by
      refine Identifier.mem_of_mem_firstPerType ?_
      rw [← Identifier.candidates, hc]
      exact List.mem_singleton_self c
    obtain ⟨l, hl, hcl⟩ := List.mem_flatMap.1 hmem
    obtain ⟨gv, e, hgv, he, hgroup, hfits, rfl⟩ := Identifier.mem_listCandidates hcl
    have hsub : e.isSubresource = false := by
      have := hfits
      simp only [Identifier.fits, Bool.and_eq_true, Bool.not_eq_true'] at this
      exact this.1
    exact ⟨gv, e, mem_typesOf.2 ⟨l, mem_preferred hl, hgv, he, hsub⟩, hgroup, hfits, rfl⟩

end Periscope
