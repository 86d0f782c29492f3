import Periscope.Proofs.Resolution.Naming

/-!
# Best effort next to exact resolution

Best effort splits a resource word at its dot before it asks for an exact resolution, which by itself takes the word
as it is where a version is given, and where nothing stands in front of the dot (`SplitApart`). As long as both look
for one word, best effort keeps every exact answer. Main result: `bestEffort_keeps_exact`, with the words for which it
fails.
-/

namespace Periscope

open Snapshot

variable {s : Snapshot} {d : Discovery} {id : Identifier} {r : ResolvedResource} {gv : GroupVersion}
  {word : String}

/-! ## One word -/

namespace Identifier

/-- The word is split for best effort alone: no group is set, the word has a dot, and a version is asked for or nothing
stands in front of the dot. -/
def SplitApart (id : Identifier) : Prop :=
  id.group? = none ∧ ∃ word ∈ id.resource?, '.' ∈ word.toList ∧
    (id.apiVersion?.isSome ∨ word.toList.head? = some '.')

theorem words_of_normalized_eq (h : id.normalized = id) : id.exactWord? = id.bestEffortWord? := by
  rw [← exactWord?_normalized, h]

/-- The words of a resource word that is split at a dot. -/
theorem words_of_split {before behind : List Char} (hgroup : id.group? = none) (hword : id.resource? = some word)
    (hsplit : Text.splitFirst? '.' word.toList = some (before, behind)) :
    id.bestEffortWord? = nonEmpty (some (String.ofList before)) ∧
      id.exactWord? = some (if id.apiVersion?.isSome then word
        else (nonEmpty (some (String.ofList before))).getD word) := by
  have hid : id.normalized =
      { id with resource := some (String.ofList before), group := some (String.ofList behind) } := by
    simp [normalized, hgroup, hword, hsplit]
  have hbest : id.bestEffortWord? = nonEmpty (some (String.ofList before)) := by
    rw [bestEffortWord?, hid, resource?]
  refine ⟨hbest, ?_⟩
  rw [exactWord?, hword, Option.map_some, ← bestEffortWord?, hbest]

/-- Exact resolution and best effort look for one word unless it is split for best effort alone. -/
theorem exactWord?_eq_bestEffortWord?_iff : id.exactWord? = id.bestEffortWord? ↔ ¬ id.SplitApart := by
  cases hword : id.resource? with
  | none =>
    have hnone : id.normalized.resource? = none := normalized_resource?_of_none hword
    simp [exactWord?, bestEffortWord?, SplitApart, hword, hnone]
  | some word =>
    by_cases hgroup : id.group? = none
    case neg =>
      have hsome : id.group?.isSome := Option.isSome_iff_ne_none.2 hgroup
      exact iff_of_true (words_of_normalized_eq (normalized_of_group?_isSome hsome)) fun h => hgroup h.1
    cases hsplit : Text.splitFirst? '.' word.toList with
    | none =>
      have hdot : '.' ∉ word.toList := Text.splitFirst?_eq_none.1 hsplit
      have hid : id.normalized = id := normalized_of_no_dot (by simpa [hword] using hdot)
      refine iff_of_true (words_of_normalized_eq hid) ?_
      rintro ⟨-, word', hword', hdot', -⟩
      obtain rfl : word = word' := Option.some.inj (hword.symm.trans hword')
      exact hdot hdot'
    | some parts =>
      obtain ⟨before, behind⟩ := parts
      obtain ⟨hbest, hexact⟩ := words_of_split hgroup hword hsplit
      obtain ⟨htext, hbefore⟩ := Text.splitFirst?_eq_some.1 hsplit
      have hsplit : id.SplitApart ↔ id.apiVersion?.isSome ∨ before = [] := by
        have hhead : word.toList.head? = some '.' ↔ before = [] := by
          cases before with
          | nil => simp [htext]
          | cons c before =>
            have hc : c ≠ '.' := fun h => hbefore (h ▸ List.mem_cons_self)
            simp [htext, hc]
        simp [SplitApart, hgroup, hword, ← hhead, htext]
      have hshort : word ≠ String.ofList before := by
        rintro rfl
        simp at htext
      rw [hsplit, hbest, hexact]
      by_cases hversion : id.apiVersion?.isSome <;> by_cases hempty : before = [] <;>
        simp [nonEmpty, Option.filter, hversion, hempty, hshort]

theorem explicitVersion_normalized : id.normalized.explicitVersion = id.explicitVersion := by
  simp only [explicitVersion, normalized_apiVersion?]

/-- Where one word is looked for, the split does not change the look-up. -/
theorem lookup_normalized {version : Option GroupVersion} {raw : String}
    (hword : id.exactWord? = id.bestEffortWord?) (hversion : id.explicitVersion = .ok version)
    (hraw : id.resource? = some raw) (hsplit : id.normalized.resource? = some word) :
    id.normalized.lookup version word = id.lookup version raw := by
  have hresource : (id.lookup version raw).resource = word :=
    lookup_resource hraw hversion (hword.trans hsplit)
  cases version with
  | none => simp [lookup, normalized_normalized, hsplit]
  | some v => simpa [lookup] using hresource.symm

end Identifier

namespace Discovery

theorem lookupByKind_normalized (version : Option GroupVersion) :
    d.lookupByKind id.normalized version = d.lookupByKind id version := by
  simp only [lookupByKind, Identifier.normalized_kind?, Identifier.normalized_normalized]

theorem resolveExact_normalized (hword : id.exactWord? = id.bestEffortWord?) :
    d.resolveExact id.normalized = d.resolveExact id := by
  unfold resolveExact
  rw [Identifier.explicitVersion_normalized]
  cases hversion : id.explicitVersion with
  | error e => rfl
  | ok version =>
    simp only [bind, Except.bind]
    cases hraw : id.resource? with
    | none => simp only [Identifier.normalized_resource?_of_none hraw, lookupByKind_normalized]
    | some raw =>
      have hsome : id.exactWord?.isSome := by simp [Identifier.exactWord?, hraw]
      rw [hword] at hsome
      obtain ⟨word, hsplit⟩ := Option.isSome_iff_exists.1 hsome
      rw [Identifier.bestEffortWord?] at hsplit
      simp only [hsplit, Identifier.lookup_normalized hword hversion hraw hsplit, Identifier.normalized_kind?,
        lookupByKind_normalized]

theorem resolveBestEffort_of_same_word (hset : id.apiVersion?.isSome ∨ id.resource?.isSome)
    (hword : id.exactWord? = id.bestEffortWord?) (h : d.resolveExact id = .ok r) :
    d.resolveBestEffort id = .ok r := by
  refine resolveBestEffort_of_normalized (hset.imp_right fun hraw => ?_) (resolveExact_normalized hword ▸ h)
  rw [← Identifier.bestEffortWord?, ← hword]
  simpa [Identifier.exactWord?] using hraw

end Discovery

/-! ## Two words -/

namespace Snapshot

/-- What best effort answers has to do with a type that answers to its word or is of the kind. -/
theorem exists_fitting (h : s.discovery.resolveBestEffort id = .ok r) :
    ∃ gv, ∃ e ∈ s.typesOf gv,
      (∃ word ∈ id.bestEffortWord?, e.answersTo word) ∨ ∃ kind ∈ id.kind?, e.kind = kind := by
  rcases Discovery.resolveBestEffort_ok h with hexact | ⟨-, hscan⟩
  · obtain ⟨version, hversion, ⟨word, hword, hlookup⟩ | hkind⟩ := Discovery.resolveExact_ok hexact
    · obtain ⟨gv, e, -, -, he, -⟩ := lookupByResource_ok hlookup
      rw [Identifier.lookup_resource hword hversion (Identifier.exactWord?_normalized.trans hword)] at he
      obtain ⟨hit, hhit, -⟩ := Option.bind_eq_some_iff.1 he
      refine ⟨gv, hit, List.mem_of_find?_eq_some hhit, .inl ⟨word, hword, ?_⟩⟩
      exact answersTo_of_isNamed (Identifier.ne_empty_of_resource? hword) (List.find?_some hhit)
    · obtain ⟨kind, m, hsome, -, hm⟩ := Discovery.lookupByKind_ok hkind
      obtain ⟨gv, e, -, -, he, -⟩ := restMapping_ok (s := s) hm
      refine ⟨gv, e, List.mem_of_find?_eq_some he, .inr ⟨kind, by simpa using hsome, ?_⟩⟩
      simpa using List.find?_some he
  · obtain ⟨gv, e, he, -, hfits, -⟩ := scan_ok hscan
    refine ⟨gv, e, he, ?_⟩
    simp only [Identifier.fits, Identifier.normalized_kind?, Bool.and_eq_true] at hfits
    split at hfits
    · next word hword => exact .inl ⟨word, hword, hfits.2⟩
    · next kind _ hkind => exact .inr ⟨kind, hkind, by simpa using hfits.2⟩
    · simp at hfits

/-- The snapshot of a single type. -/
def ofType (groupVersion : String) (e : ResourceEntry) : Snapshot := ⟨[⟨groupVersion, [e]⟩], []⟩

section OfType

variable {text : String} {e e' : ResourceEntry}

theorem eq_of_mem_ofType (h : e' ∈ (ofType text e).typesOf gv) : e' = e := by
  obtain ⟨l, hl, -, he, -⟩ := mem_typesOf.1 h
  obtain rfl : l = ⟨text, [e]⟩ := by simpa [ofType] using hl
  simpa using he

/-- A single type is found by its name in every look-up that allows its group version. -/
theorem lookupByResource_ofType {p : PartialResource} (hgv : GroupVersion.ofText? text = some gv)
    (hgroup : ∀ g ∈ p.group, g = gv.group) (hversion : ∀ v ∈ p.version, v = gv.version)
    (hproper : e.isSubresource = false) (hnamed : isNamed p.resource e) :
    (ofType text e).discovery.lookupByResource p = .ok (mappingOf gv e).resolved := by
  have hlists : (ofType text e).parsedLists = [(gv, ⟨text, [e]⟩)] := by
    simp [parsedLists, ofType, ResourceList.parsed?, hgv]
  have hasked : (p.group.all (· == gv.group) && p.version.all (· == gv.version)) = true := by
    simp only [Bool.and_eq_true, Option.all_eq_true, beq_iff_eq]
    exact ⟨hgroup, hversion⟩
  have hfound : entryFor? ⟨text, [e]⟩ p.resource = some e := by
    have hnamed' : (e.name == p.resource || e.singularName == p.resource) = true := hnamed
    simp [entryFor?, hproper, hnamed']
  have hhits : (ofType text e).resourceHits p = [⟨gv.group, gv.version, e.name⟩] := by
    simp [resourceHits, hlists, hasked, hfound, firstPerGroup, firstPerGroup.go]
  have htype : (ofType text e).resourceFor p = .ok ⟨gv.group, gv.version, e.name⟩ := by
    simp [resourceFor, hhits]
  have hkind : (ofType text e).kindFor ⟨gv.group, gv.version, e.name⟩ = .ok ⟨gv.group, gv.version, e.kind⟩ := by
    simp [kindFor, hlists, GroupVersionResource.groupVersion]
  have hmapping : (ofType text e).restMapping ⟨gv.group, e.kind⟩ (some gv.version) = .ok (mappingOf gv e) := by
    simp [restMapping, hlists, hproper, mappingOf]
  simp [Discovery.lookupByResource, discovery, bind, Except.bind, htype, hkind, hmapping,
    GroupVersionKind.groupKind]

end OfType

end Snapshot

/-- A text other than the given one. -/
def otherThan (avoided : Option String) : String := if avoided = some "a" then "b" else "a"

theorem otherThan_ne (avoided : Option String) : avoided ≠ some (otherThan avoided) := by
  unfold otherThan
  split
  · next h => simp [h]
  · next h => exact h

theorem otherThan_no_slash (avoided : Option String) : (otherThan avoided).toList.contains '/' = false := by
  unfold otherThan
  split <;> rfl

/-- The group version of a type that the identifier allows is one that is looked up. -/
theorem Identifier.Allows.asked {e : ResourceEntry} {version : Option GroupVersion} (h : id.Allows r e)
    (hversion : id.explicitVersion = .ok version) (raw : String) :
    (∀ g ∈ (id.lookup version raw).group, g = r.type.group) ∧
      ∀ v ∈ (id.lookup version raw).version, v = r.type.version := by
  obtain ⟨hsome, hnone⟩ := Identifier.explicitVersion_ok hversion
  cases hapi : id.apiVersion? with
  | none =>
    obtain rfl := hnone hapi
    simp only [lookup, normalized_group?]
    exact ⟨fun g hg => (h.group hapi g hg).symm, by simp⟩
  | some text =>
    obtain ⟨v, rfl, hv⟩ := hsome text hapi
    obtain rfl : v = r.type.groupVersion := Option.some.inj (hv.symm.trans (h.version text hapi))
    simp [lookup, GroupVersionResource.groupVersion]

/-- Where two words are looked for and an exact resolution has an answer at all, some snapshot lets best effort lose
the exact answer: its only type has the exact word as its singular name. -/
theorem Snapshot.exists_exact_lost (hne : id.exactWord? ≠ id.bestEffortWord?)
    (h : s.discovery.resolveExact id = .ok r) :
    ∃ (s' : Snapshot) (r' : ResolvedResource),
      s'.discovery.resolveExact id = .ok r' ∧ ∀ r'', s'.discovery.resolveBestEffort id ≠ .ok r'' := by
  obtain ⟨e, hlists, hallows⟩ := resolveExact_sound h
  obtain ⟨l, -, hgv, -⟩ := hlists.listed
  obtain ⟨version, hversion, -⟩ := Discovery.resolveExact_ok h
  cases hraw : id.resource? with
  | none =>
    refine absurd ?_ hne
    rw [Identifier.bestEffortWord?, Identifier.normalized_resource?_of_none hraw, Identifier.exactWord?, hraw]
    rfl
  | some raw =>
    obtain ⟨word, hword⟩ : ∃ word, id.exactWord? = some word := by simp [Identifier.exactWord?, hraw]
    obtain ⟨hgroup, hasked⟩ := hallows.asked hversion raw
    let lone : ResourceEntry := ⟨otherThan id.bestEffortWord?, word, true, otherThan id.kind?, [], []⟩
    have hlookup : (ofType l.groupVersion lone).discovery.lookupByResource (id.lookup version raw) =
        .ok (mappingOf r.type.groupVersion lone).resolved :=
      lookupByResource_ofType hgv hgroup hasked (otherThan_no_slash _)
        (by simp [isNamed, lone, Identifier.lookup_resource hraw hversion hword])
    refine ⟨ofType l.groupVersion lone, (mappingOf r.type.groupVersion lone).resolved, ?_, fun r'' hbest => ?_⟩
    · simp only [Discovery.resolveExact, bind, Except.bind, hversion, hraw, hlookup]
    · obtain ⟨gv, e', he', hfit⟩ := exists_fitting hbest
      obtain rfl := eq_of_mem_ofType he'
      rcases hfit with ⟨word', hword', hanswers⟩ | ⟨kind, hkind, rfl⟩
      · simp only [ResourceEntry.answersTo, lone, Bool.or_eq_true, beq_iff_eq, Bool.and_eq_true] at hanswers
        rcases hanswers with (rfl | ⟨-, rfl⟩) | hshort
        · exact otherThan_ne _ hword'
        · exact hne (hword.trans hword'.symm)
        · simp at hshort
      · exact otherThan_ne _ hkind

/-- Where exact resolution and best effort look for one word, best effort gives every answer of the exact resolution.
For all other identifiers that an exact resolution can answer there is a snapshot in which it does and best effort
answers nothing. The two words differ exactly if the word is split for best effort alone. -/
theorem bestEffort_keeps_exact (hset : id.apiVersion?.isSome ∨ id.resource?.isSome) :
    (id.exactWord? = id.bestEffortWord? → ∀ (s : Snapshot) (r : ResolvedResource),
      s.discovery.resolveExact id = .ok r → s.discovery.resolveBestEffort id = .ok r) ∧
    (id.exactWord? ≠ id.bestEffortWord? → ∀ (s : Snapshot) (r : ResolvedResource),
      s.discovery.resolveExact id = .ok r →
      ∃ (s' : Snapshot) (r' : ResolvedResource),
        s'.discovery.resolveExact id = .ok r' ∧ ∀ r'', s'.discovery.resolveBestEffort id ≠ .ok r'') ∧
    (id.exactWord? = id.bestEffortWord? ↔ ¬ id.SplitApart) :=
  ⟨fun hword _ _ h => Discovery.resolveBestEffort_of_same_word hset hword h, fun hne _ _ => exists_exact_lost hne,
    Identifier.exactWord?_eq_bestEffortWord?_iff⟩

/-- Two versions of a group; a kind is served by the one that is not preferred. -/
def appTypes : Snapshot :=
  { lists :=
      [⟨"apps/v1", [⟨"deployments", "deployment", true, "Deployment", ["deploy"], []⟩,
          ⟨"statefulsets", "statefulset", true, "StatefulSet", ["sts"], []⟩]⟩,
        ⟨"apps/v1beta1", [⟨"scales", "scale", true, "Scale", [], []⟩]⟩]
    failedGroups := [] }

theorem bestEffort_keeps_exact_deploy :
    (Identifier.resource? ⟨none, none, some "deployment.apps", none⟩).isSome ∧
      Identifier.exactWord? ⟨none, none, some "deployment.apps", none⟩ =
        Identifier.bestEffortWord? ⟨none, none, some "deployment.apps", none⟩ ∧
      appTypes.discovery.resolveExact ⟨none, none, some "deployment.apps", none⟩ =
        .ok ⟨⟨"apps", "v1", "deployments"⟩, true⟩ ∧
      appTypes.discovery.resolveBestEffort ⟨none, none, some "deployment.apps", none⟩ =
        .ok ⟨⟨"apps", "v1", "deployments"⟩, true⟩ :=
  ⟨by rfl, by rfl, by rfl, (bestEffort_keeps_exact (.inr (by rfl))).1 (by rfl) appTypes _ (by rfl)⟩

/-- A word with a dot is taken whole under a version by an exact resolution, which then goes by the kind, and split by
best effort, which finds another type. A word with nothing in front of its dot leaves best effort to the preferred
versions. -/
theorem exact_answer_not_kept :
    (appTypes.discovery.resolveExact ⟨some "apps/v1", some "Deployment", some "statefulsets.apps", none⟩ =
        .ok ⟨⟨"apps", "v1", "deployments"⟩, true⟩ ∧
      appTypes.discovery.resolveBestEffort ⟨some "apps/v1", some "Deployment", some "statefulsets.apps", none⟩ =
        .ok ⟨⟨"apps", "v1", "statefulsets"⟩, true⟩) ∧
    (appTypes.discovery.resolveExact ⟨none, some "Scale", some ".apps", none⟩ =
        .ok ⟨⟨"apps", "v1beta1", "scales"⟩, true⟩ ∧
      appTypes.discovery.resolveBestEffort ⟨none, some "Scale", some ".apps", none⟩ =
        .error (.notFound "kind \"Scale\"")) :=
  ⟨⟨by rfl, by rfl⟩, by rfl, by rfl⟩

end Periscope
