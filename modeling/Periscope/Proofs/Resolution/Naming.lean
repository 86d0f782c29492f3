import Periscope.Proofs.Resolution.Soundness

/-!
# Types that answer to the word

A resource word that is found by name is led through its kind, and the first type of that kind is the answer.
Where several types of a group version share a kind, that may be a type of another name. Main result:
`resolution_by_word_iff`, which says when the answer is a type of the word.
-/

namespace Periscope

open Snapshot

variable {s : Snapshot} {id : Identifier} {r : ResolvedResource} {gv : GroupVersion} {word : String}

/-- An entry for the type answers to the word. -/
def Snapshot.Answers (s : Snapshot) (r : ResolvedResource) (word : String) : Prop :=
  ∃ e ∈ s.typesOf r.type.groupVersion, e.name = r.type.resource ∧ e.answersTo word

instance : Decidable (s.Answers r word) :=
  inferInstanceAs (Decidable (∃ e ∈ s.typesOf r.type.groupVersion, _ ∧ _))

/-- The way of a word through its kind comes back to a name of which an entry answers to the word. -/
def Snapshot.NameSurvives (s : Snapshot) (gv : GroupVersion) (word : String) : Prop :=
  ∀ e, typeFor? (s.typesOf gv) word = some e →
    ∃ e' ∈ s.typesOf gv, e'.name = e.name ∧ e'.answersTo word

namespace Identifier

/-- The word that an exact look-up is made for. It is split only where no version is asked for. -/
def exactWord? (id : Identifier) : Option String :=
  id.resource?.map fun word => if id.apiVersion?.isSome then word else id.normalized.resource?.getD word

/-- The word that best effort looks for. -/
def bestEffortWord? (id : Identifier) : Option String := id.normalized.resource?

theorem exactWord?_normalized : id.normalized.exactWord? = id.bestEffortWord? := by
  rw [exactWord?, bestEffortWord?, normalized_normalized]
  cases id.normalized.resource? <;> simp

theorem ne_empty_of_resource? (h : id.resource? = some word) : word ≠ "" := by
  simpa using (Option.filter_eq_some_iff.1 h).2

theorem exactWord?_ne_empty (h : id.exactWord? = some word) : word ≠ "" := by
  obtain ⟨raw, hraw, rfl⟩ := Option.map_eq_some_iff.1 h
  split
  · exact ne_empty_of_resource? hraw
  · cases hsplit : id.normalized.resource? with
    | none => exact ne_empty_of_resource? hraw
    | some w => exact ne_empty_of_resource? hsplit

theorem lookup_resource {raw : String} {version : Option GroupVersion} (hraw : id.resource? = some raw)
    (hversion : id.explicitVersion = .ok version) (hword : id.exactWord? = some word) :
    (id.lookup version raw).resource = word := by
  obtain rfl : _ = word := by simpa [exactWord?, hraw] using hword
  obtain ⟨hsome, hnone⟩ := explicitVersion_ok hversion
  cases hapi : id.apiVersion? with
  | none => simp [hnone hapi, lookup]
  | some text =>
    obtain ⟨v, rfl, -⟩ := hsome text hapi
    simp [lookup]

end Identifier

/-! ## Exact resolution -/

/-- Without a kind the answer is the type that the word leads to. -/
theorem Snapshot.resolveExact_eq_typeFor? (hkind : id.kind? = none) (hword : id.exactWord? = some word)
    (h : s.discovery.resolveExact id = .ok r) :
    ∃ gv e, typeFor? (s.typesOf gv) word = some e ∧ r = (mappingOf gv e).resolved := by
  obtain ⟨version, hversion, ⟨raw, hraw, h⟩ | h⟩ := Discovery.resolveExact_ok h
  · obtain ⟨gv, e, -, -, he, rfl⟩ := lookupByResource_ok h
    rw [Identifier.lookup_resource hraw hversion hword] at he
    exact ⟨gv, e, he, rfl⟩
  · obtain ⟨kind, _, hsome, -⟩ := Discovery.lookupByKind_ok h
    rw [hkind] at hsome
    cases hsome

theorem Snapshot.exact_answers_iff (hkind : id.kind? = none) (hword : id.exactWord? = some word)
    (h : s.discovery.resolveExact id = .ok r) :
    s.Answers r word ↔ s.NameSurvives r.type.groupVersion word := by
  obtain ⟨gv, e, he, rfl⟩ := resolveExact_eq_typeFor? hkind hword h
  constructor
  · rintro ⟨e', hmem, hname, hanswers⟩ e'' he''
    obtain rfl : e = e'' := Option.some.inj (he.symm.trans he'')
    exact ⟨e', hmem, hname, hanswers⟩
  · exact fun hsurvives => hsurvives e he

/-! ## Best effort -/

/-- A scan answers a type of the word. -/
theorem Snapshot.scan_answers (hword : id.resource? = some word) (h : s.discovery.scan id = .ok r) :
    s.Answers r word := by
  obtain ⟨gv, e, he, -, hfits, rfl⟩ := scan_ok h
  refine ⟨e, he, rfl, ?_⟩
  simp only [Identifier.fits, hword, Bool.and_eq_true] at hfits
  exact hfits.2

/-- With best effort the answer is a type of the word also where exact resolution fails and the preferred
versions are scanned. -/
theorem Snapshot.bestEffort_answers_iff (hkind : id.kind? = none) (hword : id.bestEffortWord? = some word)
    (h : s.discovery.resolveBestEffort id = .ok r) :
    s.Answers r word ↔ s.NameSurvives r.type.groupVersion word ∨
      ∃ e, s.discovery.resolveExact id.normalized = .error e := by
  cases hexact : s.discovery.resolveExact id.normalized with
  | ok r' =>
    obtain rfl : r' = r := by
      rw [Discovery.resolveBestEffort_of_exact hword hexact] at h
      exact Except.ok.inj h
    rw [exact_answers_iff (by simpa using hkind) (by rw [Identifier.exactWord?_normalized, hword]) hexact]
    simp
  | error e =>
    rcases Discovery.resolveBestEffort_ok h with h | ⟨-, hscan⟩
    · rw [hexact] at h
      cases h
    · simp [scan_answers hword hscan]

/-! ## Whole snapshots -/

/-- Types of one group version that share a kind share a name. -/
def Snapshot.OneNamePerKind (s : Snapshot) : Prop :=
  ∀ gv, ∀ e ∈ s.typesOf gv, ∀ e' ∈ s.typesOf gv, e.kind = e'.kind → e.name = e'.name

theorem Snapshot.OneNamePerKind.nameSurvives (hkinds : s.OneNamePerKind) (hword : word ≠ "") :
    s.NameSurvives gv word := by
  intro e he
  obtain ⟨hit, hhit, he⟩ := Option.bind_eq_some_iff.1 he
  obtain ⟨first, hfirst, he⟩ := Option.bind_eq_some_iff.1 he
  have hkind : e.kind = first.kind := by simpa using List.find?_some he
  have hname : first.name = hit.name := by simpa using List.find?_some hfirst
  refine ⟨hit, List.mem_of_find?_eq_some hhit, ?_, ?_⟩
  · rw [← hname]
    exact hkinds gv _ (List.mem_of_find?_eq_some hfirst) _ (List.mem_of_find?_eq_some he) hkind.symm
  · exact answersTo_of_isNamed hword (List.find?_some hhit)

/-- A word in the group version of a list is answered where it leads to. -/
theorem Snapshot.resolveExact_of_typeFor? {l : ResourceList} {e : ResourceEntry} (hgv : l.parsed? = some gv)
    (hword : word ≠ "") (he : typeFor? (s.typesOf gv) word = some e) :
    Identifier.exactWord? ⟨some l.groupVersion, none, some word, none⟩ = some word ∧
      s.discovery.resolveExact ⟨some l.groupVersion, none, some word, none⟩ = .ok (mappingOf gv e).resolved := by
  have hraw : l.groupVersion ≠ "" := by
    intro hempty
    rw [ResourceList.parsed?, hempty] at hgv
    cases hgv
  have hapi : Identifier.apiVersion? ⟨some l.groupVersion, none, some word, none⟩ = some l.groupVersion := by
    simp [Identifier.apiVersion?, Identifier.nonEmpty, Option.filter, hraw]
  have hresource : Identifier.resource? ⟨some l.groupVersion, none, some word, none⟩ = some word := by
    simp [Identifier.resource?, Identifier.nonEmpty, Option.filter, hword]
  have hversion : Identifier.explicitVersion ⟨some l.groupVersion, none, some word, none⟩ = .ok (some gv) := by
    rw [ResourceList.parsed?] at hgv
    simp [Identifier.explicitVersion, hapi, hgv]
  constructor
  · simp [Identifier.exactWord?, hapi, hresource]
  · simp [Discovery.resolveExact, bind, Except.bind, hversion, hresource, Identifier.lookup,
      lookupByResource_of_typeFor? he]

/-- A group version of a snapshot has a text that can be asked for. -/
theorem Snapshot.exists_resolveExact {e : ResourceEntry} (hword : word ≠ "")
    (he : typeFor? (s.typesOf gv) word = some e) :
    ∃ id : Identifier, id.kind? = none ∧ id.exactWord? = some word ∧
      s.discovery.resolveExact id = .ok (mappingOf gv e).resolved := by
  obtain ⟨l, -, hgv, -⟩ := mem_typesOf.1 (mem_of_typeFor? he)
  exact ⟨_, rfl, resolveExact_of_typeFor? hgv hword he⟩

/-- When a resolution by a word alone is of a type that answers to the word: for one exact resolution, for one
with best effort, and for all resolutions in a snapshot. In a snapshot where types that share a kind share a name
all are. -/
theorem resolution_by_word_iff (s : Snapshot) :
    (∀ id word r, id.kind? = none → id.exactWord? = some word → s.discovery.resolveExact id = .ok r →
      (s.Answers r word ↔ s.NameSurvives r.type.groupVersion word)) ∧
    (∀ id word r, id.kind? = none → id.bestEffortWord? = some word →
      s.discovery.resolveBestEffort id = .ok r →
      (s.Answers r word ↔ s.NameSurvives r.type.groupVersion word ∨
        ∃ e, s.discovery.resolveExact id.normalized = .error e)) ∧
    ((∀ id word r, id.kind? = none →
      (id.exactWord? = some word ∧ s.discovery.resolveExact id = .ok r ∨
        id.bestEffortWord? = some word ∧ s.discovery.resolveBestEffort id = .ok r) →
      s.Answers r word) ↔
      ∀ gv word, word ≠ "" → s.NameSurvives gv word) ∧
    (s.OneNamePerKind → ∀ gv word, word ≠ "" → s.NameSurvives gv word) := by
  refine ⟨fun _ _ _ => exact_answers_iff, fun _ _ _ => bestEffort_answers_iff, ⟨?_, ?_⟩,
    fun hkinds _ _ => hkinds.nameSurvives⟩
  · intro hall gv word hword e he
    obtain ⟨id, hkind, hexact, h⟩ := exists_resolveExact hword he
    exact hall id word _ hkind (.inl ⟨hexact, h⟩)
  · rintro hall id word r hkind (⟨hword, h⟩ | ⟨hword, h⟩)
    · exact (exact_answers_iff hkind hword h).2 (hall _ word (Identifier.exactWord?_ne_empty hword))
    · exact (bestEffort_answers_iff hkind hword h).2
        (.inl (hall _ word (Identifier.ne_empty_of_resource? hword)))

/-- A snapshot whose two types share a kind. -/
def sharedKind : Snapshot :=
  { lists :=
      [⟨"v1", [⟨"pods", "pod", true, "Pod", ["po"], []⟩, ⟨"podviews", "podview", false, "Pod", [], []⟩]⟩]
    failedGroups := [] }

/-- The second type of a kind is asked for by its name, and the first one is the answer. -/
theorem sharedKind_wrong_type :
    sharedKind.discovery.resolveExact ⟨some "v1", none, some "podviews", none⟩ =
        .ok ⟨⟨"", "v1", "pods"⟩, true⟩ ∧
      Identifier.exactWord? ⟨some "v1", none, some "podviews", none⟩ = some "podviews" ∧
      ¬ sharedKind.Answers ⟨⟨"", "v1", "pods"⟩, true⟩ "podviews" :=
  ⟨by rfl, by rfl, by decide +kernel⟩

end Periscope
