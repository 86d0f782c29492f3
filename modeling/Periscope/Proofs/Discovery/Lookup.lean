import Periscope.Discovery.Snapshot

/-!
# Look-ups in a snapshot

What the three exact look-ups find, said through the proper types of one group version in the order of the
lists. `resourceFor` finds the first type of a name, `kindFor` the kind of the first entry of a name, and
`restMapping` the first type of a kind.
-/

namespace Periscope.Snapshot

variable {s : Snapshot}

/-! ## The types of a group version -/

/-- The entries that a group version lists, in the order of the lists. -/
def entriesOf (s : Snapshot) (gv : GroupVersion) : List ResourceEntry :=
  (s.parsedLists.filter fun x => x.1 == gv).flatMap fun x => x.2.resources

/-- The proper types of a group version, in the order of the lists. -/
def typesOf (s : Snapshot) (gv : GroupVersion) : List ResourceEntry :=
  (s.entriesOf gv).filter fun e => !e.isSubresource

/-- Whether a word is the plural or the singular name of an entry. -/
def isNamed (word : String) (e : ResourceEntry) : Bool := e.name == word || e.singularName == word

theorem answersTo_of_isNamed {word : String} {e : ResourceEntry} (hword : word ≠ "") (h : isNamed word e) :
    e.answersTo word := by
  simp only [isNamed, Bool.or_eq_true, beq_iff_eq] at h
  rcases h with h | h
  · simp [ResourceEntry.answersTo, h]
  · simp [ResourceEntry.answersTo, h, hword]

theorem mem_parsedLists {gv : GroupVersion} {l : ResourceList} :
    (gv, l) ∈ s.parsedLists ↔ l ∈ s.lists ∧ l.parsed? = some gv := by
  simp only [parsedLists, List.mem_filterMap, Option.map_eq_some_iff, Prod.mk.injEq]
  constructor
  · rintro ⟨l', hl, gv', hgv, rfl, rfl⟩
    exact ⟨hl, hgv⟩
  · rintro ⟨hl, hgv⟩
    exact ⟨l, hl, gv, hgv, rfl, rfl⟩

theorem mem_typesOf {gv : GroupVersion} {e : ResourceEntry} :
    e ∈ s.typesOf gv ↔
      ∃ l ∈ s.lists, l.parsed? = some gv ∧ e ∈ l.resources ∧ e.isSubresource = false := by
  simp only [typesOf, entriesOf, List.mem_filter, List.mem_flatMap, Prod.exists, mem_parsedLists,
    beq_iff_eq, Bool.not_eq_true']
  constructor
  · rintro ⟨⟨_, l, ⟨⟨hl, hgv⟩, rfl⟩, he⟩, hsub⟩
    exact ⟨l, hl, hgv, he, hsub⟩
  · rintro ⟨l, hl, hgv, he, hsub⟩
    exact ⟨⟨gv, l, ⟨⟨hl, hgv⟩, rfl⟩, he⟩, hsub⟩

/-- The first type with a property stands in the first list of its group version that has one. -/
theorem find?_typesOf {before after : List (GroupVersion × ResourceList)} {gv : GroupVersion}
    {l : ResourceList} {p : ResourceEntry → Bool} {e : ResourceEntry}
    (hs : s.parsedLists = before ++ (gv, l) :: after)
    (hbefore : ∀ x ∈ before, x.1 = gv → x.2.resources.find? (fun e => !e.isSubresource && p e) = none)
    (he : l.resources.find? (fun e => !e.isSubresource && p e) = some e) :
    (s.typesOf gv).find? p = some e := by
  have hnone : ((before.filter fun x => x.1 == gv).flatMap fun x => x.2.resources).find?
      (fun e => !e.isSubresource && p e) = none := by
    simp only [List.find?_eq_none, List.mem_flatMap, List.mem_filter, beq_iff_eq]
    rintro e' ⟨x, ⟨hx, hgv⟩, he'⟩
    exact List.find?_eq_none.1 (hbefore x hx hgv) e' he'
  simp only [typesOf, List.find?_filter, Bool.decide_and, Bool.decide_eq_true]
  rw [entriesOf, hs, List.filter_append, List.flatMap_append, List.find?_append, hnone,
    List.filter_cons_of_pos (by simp), List.flatMap_cons, List.find?_append, he]
  rfl

/-! ## Kinds -/

/-- The mapping of a type to its kind. -/
def mappingOf (gv : GroupVersion) (e : ResourceEntry) : RestMapping :=
  { resource := ⟨gv.group, gv.version, e.name⟩
    kind := ⟨gv.group, gv.version, e.kind⟩
    namespaced := e.namespaced }

/-- A kind leads to the first type of that kind in one of the versions that were asked for. -/
theorem restMapping_ok {k : GroupKind} {version : Option String} {m : RestMapping}
    (h : s.restMapping k version = .ok m) :
    ∃ gv e, gv.group = k.group ∧ (∀ v ∈ version, v = gv.version) ∧
      (s.typesOf gv).find? (fun e => e.kind == k.kind) = some e ∧ m = mappingOf gv e := by
  simp only [restMapping] at h
  split at h
  · next found hfound =>
    obtain rfl : found = m := by simpa using h
    obtain ⟨before, ⟨gv, l⟩, after, hs, hl, hbefore⟩ := List.findSome?_eq_some_iff.1 hfound
    obtain ⟨⟨hgroup, hversion⟩, e, he, rfl⟩ := by
      simpa only [Option.ite_none_right_eq_some, Bool.and_eq_true, beq_iff_eq,
        Option.map_eq_some_iff] using hl
    refine ⟨gv, e, hgroup, fun v hv => ?_, find?_typesOf hs (fun x hx hgv => ?_) he, rfl⟩
    · rw [Option.mem_def.1 hv] at hversion
      simpa using hversion
    · have hx' := hbefore x hx
      simpa [hgv, hgroup, hversion] using hx'
  · cases h

/-- Where a version that was asked for has a type of a kind, the kind leads to a type. -/
theorem exists_restMapping {k : GroupKind} {version : Option String} {gv : GroupVersion} {e : ResourceEntry}
    (hgroup : gv.group = k.group) (hversion : ∀ v ∈ version, v = gv.version)
    (he : e ∈ s.typesOf gv) (hkind : e.kind = k.kind) : ∃ m, s.restMapping k version = .ok m := by
  simp only [restMapping]
  split
  · exact ⟨_, rfl⟩
  · next hnone =>
    obtain ⟨l, hl, hgv, hel, hsub⟩ := mem_typesOf.1 he
    have hasked : version.all (· == gv.version) := by simpa [Option.all_eq_true] using hversion
    have hl' := List.findSome?_eq_none_iff.1 hnone (gv, l) (mem_parsedLists.2 ⟨hl, hgv⟩)
    simp only [hgroup, hasked, beq_self_eq_true, Bool.and_self, ↓reduceIte, Option.map_eq_none_iff,
      List.find?_eq_none] at hl'
    exact absurd (by simp [hsub, hkind]) (hl' e hel)

/-- Where a group version has a type of a kind, the kind leads to the first one. -/
theorem restMapping_of_find? {gv : GroupVersion} {kind : String} {e : ResourceEntry}
    (he : (s.typesOf gv).find? (fun e => e.kind == kind) = some e) :
    s.restMapping ⟨gv.group, kind⟩ (some gv.version) = .ok (mappingOf gv e) := by
  obtain ⟨m, hm⟩ : ∃ m, s.restMapping ⟨gv.group, kind⟩ (some gv.version) = .ok m :=
    exists_restMapping rfl (by simp) (List.mem_of_find?_eq_some he) (by simpa using List.find?_some he)
  obtain ⟨gv', e', hgroup, hversion, he', rfl⟩ := restMapping_ok hm
  have hv : gv.version = gv'.version := hversion _ rfl
  obtain rfl : gv' = gv := by
    cases gv'; cases gv; cases hgroup; cases hv; rfl
  rw [he] at he'
  cases he'
  exact hm

/-- An entry whose name has no slash is a proper type. -/
theorem find?_entriesOf {gv : GroupVersion} {name : String} (hname : name.toList.contains '/' = false) :
    (s.entriesOf gv).find? (fun e => e.name == name) =
      (s.typesOf gv).find? fun e => e.name == name := by
  rw [typesOf, List.find?_filter]
  congr 1
  funext e
  by_cases he : e.name = name
  · have hsub : e.isSubresource = false := by rw [ResourceEntry.isSubresource, he, hname]
    simp [he, hsub]
  · simp [he]

/-- A name without a slash has the kind of the first type of that name. -/
theorem kindFor_eq {t : GroupVersionResource} (ht : t.resource.toList.contains '/' = false) :
    s.kindFor t =
      match (s.typesOf t.groupVersion).find? fun e => e.name == t.resource with
      | some e => .ok ⟨t.group, t.version, e.kind⟩
      | none => .error (.notFound ("resource " ++ t.render)) := by
  rw [← find?_entriesOf ht]
  rfl

/-! ## Names -/

section FirstPerGroup

variable {α : Type} {group : α → String} {items : List α} {x : α}

private theorem split_of_mem_go {seen : List String} (h : x ∈ firstPerGroup.go group seen items) :
    group x ∉ seen ∧ ∃ before after, items = before ++ x :: after ∧ ∀ y ∈ before, group y ≠ group x := by
  induction items generalizing seen with
  | nil => simp [firstPerGroup.go] at h
  | cons y rest ih =>
    rw [firstPerGroup.go] at h
    split at h
    · next hy =>
      obtain ⟨hx, before, after, rfl, hb⟩ := ih h
      have hne : group y ≠ group x := fun e => hx (e ▸ by simpa using hy)
      exact ⟨hx, y :: before, after, rfl, by simpa [hne] using hb⟩
    · next hy =>
      rcases List.mem_cons.1 h with rfl | h
      · exact ⟨by simpa using hy, [], rest, rfl, by simp⟩
      · obtain ⟨hx, before, after, rfl, hb⟩ := ih h
        have hne : group y ≠ group x := fun e => hx (by simp [e])
        exact ⟨fun hs => hx (List.mem_cons_of_mem _ hs), y :: before, after, rfl, by simpa [hne] using hb⟩

/-- What is kept for a group is its first item. -/
theorem split_of_mem_firstPerGroup (h : x ∈ firstPerGroup group items) :
    ∃ before after, items = before ++ x :: after ∧ ∀ y ∈ before, group y ≠ group x :=
  (split_of_mem_go h).2

theorem mem_of_mem_firstPerGroup (h : x ∈ firstPerGroup group items) : x ∈ items := by
  obtain ⟨before, after, rfl, -⟩ := split_of_mem_firstPerGroup h
  exact List.mem_append_right _ List.mem_cons_self

/-- Nothing is kept twice for a group. -/
theorem pairwise_firstPerGroup : (firstPerGroup group items).Pairwise fun x y => group x ≠ group y := by
  suffices h : ∀ seen, (firstPerGroup.go group seen items).Pairwise fun x y => group x ≠ group y from h []
  induction items with
  | nil => intro seen; exact .nil
  | cons x rest ih =>
    intro seen
    rw [firstPerGroup.go]
    split
    · exact ih seen
    · exact .cons (fun y hy he => (split_of_mem_go hy).1 (by simp [he])) (ih _)

private theorem exists_mem_go (seen : List String) (h : x ∈ items) :
    group x ∈ seen ∨ ∃ y ∈ firstPerGroup.go group seen items, group y = group x := by
  induction items generalizing seen with
  | nil => cases h
  | cons z rest ih =>
    rw [firstPerGroup.go]
    split
    · next hz =>
      rcases List.mem_cons.1 h with rfl | h
      · exact .inl (by simpa using hz)
      · exact ih seen h
    · rcases List.mem_cons.1 h with rfl | h
      · exact .inr ⟨x, List.mem_cons_self, rfl⟩
      · rcases ih (group z :: seen) h with hx | ⟨y, hy, hyx⟩
        · rcases List.mem_cons.1 hx with hx | hx
          · exact .inr ⟨z, List.mem_cons_self, hx.symm⟩
          · exact .inl hx
        · exact .inr ⟨y, List.mem_cons_of_mem _ hy, hyx⟩

/-- For the group of every item an item is kept. -/
theorem exists_mem_firstPerGroup (h : x ∈ items) : ∃ y ∈ firstPerGroup group items, group y = group x :=
  (exists_mem_go [] h).resolve_left List.not_mem_nil

end FirstPerGroup

/-- The hit of one list, if its group version is asked for. -/
private def hitOf (p : PartialResource) (x : GroupVersion × ResourceList) : Option GroupVersionResource :=
  if p.group.all (· == x.1.group) && p.version.all (· == x.1.version) then
    (entryFor? x.2 p.resource).map fun e => ⟨x.1.group, x.1.version, e.name⟩
  else none

private theorem resourceHits_eq (p : PartialResource) :
    s.resourceHits p = firstPerGroup GroupVersionResource.group (s.parsedLists.filterMap (hitOf p)) := by
  simp only [resourceHits, List.filterMap_filter]
  rfl

private theorem hitOf_eq_some {p : PartialResource} {x : GroupVersion × ResourceList}
    {t : GroupVersionResource} :
    hitOf p x = some t ↔ (∀ g ∈ p.group, g = x.1.group) ∧ (∀ v ∈ p.version, v = x.1.version) ∧
      ∃ e, entryFor? x.2 p.resource = some e ∧ t = ⟨x.1.group, x.1.version, e.name⟩ := by
  simp only [hitOf, Option.ite_none_right_eq_some, Bool.and_eq_true, Option.all_eq_true, beq_iff_eq,
    Option.map_eq_some_iff, and_assoc, eq_comm (a := t)]
  rfl

/-- A hit is the first type of the name in its group version, which is one that was asked for. -/
theorem mem_resourceHits {p : PartialResource} {t : GroupVersionResource} (h : t ∈ s.resourceHits p) :
    (∀ g ∈ p.group, g = t.group) ∧ (∀ v ∈ p.version, v = t.version) ∧
      ∃ e, (s.typesOf t.groupVersion).find? (isNamed p.resource) = some e ∧ e.name = t.resource := by
  rw [resourceHits_eq] at h
  obtain ⟨before, after, hsplit, hbefore⟩ := split_of_mem_firstPerGroup h
  obtain ⟨front, rest, hs, hfront, hrest⟩ := List.filterMap_eq_append_iff.1 hsplit
  obtain ⟨skipped, ⟨gv, l⟩, back, rfl, hskipped, hhit, -⟩ := List.filterMap_eq_cons_iff.1 hrest
  obtain ⟨hgroup, hversion, e, he, rfl⟩ := hitOf_eq_some.1 hhit
  refine ⟨hgroup, hversion, e, ?_, rfl⟩
  show (s.typesOf gv).find? _ = some e
  have hs' : s.parsedLists = (front ++ skipped) ++ (gv, l) :: back := by simpa using hs
  refine find?_typesOf hs' (fun x hx hgv => ?_) he
  -- An earlier list of the group version with a hit would have taken the place of the group.
  cases hx' : x.2.resources.find? (fun e => !e.isSubresource && isNamed p.resource e) with
  | none => rfl
  | some e' =>
    have hhit' : hitOf p x = some ⟨x.1.group, x.1.version, e'.name⟩ :=
      hitOf_eq_some.2 ⟨hgv ▸ hgroup, hgv ▸ hversion, e', hx', rfl⟩
    rcases List.mem_append.1 hx with hx | hx
    · have hmem := List.mem_filterMap.2 ⟨x, hx, hhit'⟩
      rw [hfront] at hmem
      exact absurd (congrArg GroupVersion.group hgv) (hbefore _ hmem)
    · rw [hskipped x hx] at hhit'
      cases hhit'

/-- In one group there is at most one hit. -/
theorem length_resourceHits_le {p : PartialResource} {g : String} (hgroup : p.group = some g) :
    (s.resourceHits p).length ≤ 1 := by
  have hpair : (s.resourceHits p).Pairwise fun t u => t.group ≠ u.group := pairwise_firstPerGroup
  have hall : ∀ t ∈ s.resourceHits p, g = t.group := fun t ht => (mem_resourceHits ht).1 g hgroup
  match s.resourceHits p, hpair, hall with
  | [], _, _ => simp
  | [_], _, _ => simp
  | t :: u :: _, hpair, hall =>
    exact absurd ((hall t (by simp)).symm.trans (hall u (by simp))) ((List.pairwise_cons.1 hpair).1 u (by simp))

/-- Where a group that was asked for has a type of the name, a hit is of that group. -/
theorem exists_mem_resourceHits {p : PartialResource} {gv : GroupVersion} {e : ResourceEntry}
    (hgroup : ∀ g ∈ p.group, g = gv.group) (hversion : ∀ v ∈ p.version, v = gv.version)
    (he : e ∈ s.typesOf gv) (hnamed : isNamed p.resource e) :
    ∃ t ∈ s.resourceHits p, t.group = gv.group := by
  obtain ⟨l, hl, hgv, hel, hsub⟩ := mem_typesOf.1 he
  have hsome : (entryFor? l p.resource).isSome :=
    List.find?_isSome.2 ⟨e, hel, by simpa [hsub, isNamed] using hnamed⟩
  obtain ⟨e', he'⟩ := Option.isSome_iff_exists.1 hsome
  have hhit : hitOf p (gv, l) = some ⟨gv.group, gv.version, e'.name⟩ :=
    hitOf_eq_some.2 ⟨hgroup, hversion, e', he', rfl⟩
  rw [resourceHits_eq]
  exact exists_mem_firstPerGroup (List.mem_filterMap.2 ⟨(gv, l), mem_parsedLists.2 ⟨hl, hgv⟩, hhit⟩)

theorem resourceFor_ok {p : PartialResource} {t : GroupVersionResource} (h : s.resourceFor p = .ok t) :
    (∀ g ∈ p.group, g = t.group) ∧ (∀ v ∈ p.version, v = t.version) ∧
      ∃ e, (s.typesOf t.groupVersion).find? (isNamed p.resource) = some e ∧ e.name = t.resource := by
  refine mem_resourceHits ?_
  unfold resourceFor at h
  split at h
  · cases h
  · next hit hhits =>
    obtain rfl : hit = t := by simpa using h
    simp [hhits]
  · cases h

/-- Where a group version has a type of a name, the name leads to the first one. -/
theorem resourceFor_of_find? {gv : GroupVersion} {word : String} {e : ResourceEntry}
    (he : (s.typesOf gv).find? (isNamed word) = some e) :
    s.resourceFor ⟨some gv.group, some gv.version, word⟩ = .ok ⟨gv.group, gv.version, e.name⟩ := by
  have hall : ∀ t ∈ s.resourceHits ⟨some gv.group, some gv.version, word⟩,
      t = ⟨gv.group, gv.version, e.name⟩ := by
    intro t ht
    obtain ⟨hgroup, hversion, e', he', hname⟩ := mem_resourceHits ht
    obtain ⟨group, version, resource⟩ := t
    obtain rfl : gv.group = group := hgroup _ rfl
    obtain rfl : gv.version = version := hversion _ rfl
    cases he.symm.trans he'
    cases hname; rfl
  have hne : s.resourceHits ⟨some gv.group, some gv.version, word⟩ ≠ [] := by
    obtain ⟨t, ht, -⟩ := exists_mem_resourceHits (p := ⟨some gv.group, some gv.version, word⟩) (by simp)
      (by simp) (List.mem_of_find?_eq_some he) (List.find?_some he)
    exact List.ne_nil_of_mem ht
  have hpair := (resourceHits_eq (s := s) ⟨some gv.group, some gv.version, word⟩) ▸
    pairwise_firstPerGroup
  unfold resourceFor
  match hhits : s.resourceHits ⟨some gv.group, some gv.version, word⟩ with
  | [] => exact absurd hhits hne
  | [t] => rw [hall t (by simp [hhits])]
  | t :: u :: rest =>
    rw [hhits, List.pairwise_cons] at hpair
    have ht := hall t (by simp [hhits])
    have hu := hall u (by simp [hhits])
    exact absurd (by rw [ht, hu]) (hpair.1 u (by simp))

theorem resourceFor_of_two_le {p : PartialResource} (h : 2 ≤ (s.resourceHits p).length) :
    s.resourceFor p =
      .error (.ambiguous p.render (sortTexts ((s.resourceHits p).map GroupVersionResource.render))) := by
  unfold resourceFor
  match s.resourceHits p, h with
  | _ :: _ :: _, _ => rfl

theorem two_le_of_resourceFor {p : PartialResource} {query : String} {candidates : List String}
    (h : s.resourceFor p = .error (.ambiguous query candidates)) :
    2 ≤ (s.resourceHits p).length ∧
      candidates = sortTexts ((s.resourceHits p).map GroupVersionResource.render) := by
  unfold resourceFor at h
  match s.resourceHits p, h with
  | _ :: _ :: _, h =>
    cases h
    exact ⟨by simp, rfl⟩

/-- A name that types of two groups have is ambiguous where no group is asked for. -/
theorem resourceFor_ambiguous {p : PartialResource} {gv gv' : GroupVersion} {e e' : ResourceEntry}
    (hgroup : p.group = none) (hversion : p.version = none) (hne : gv.group ≠ gv'.group)
    (he : e ∈ s.typesOf gv) (hnamed : isNamed p.resource e)
    (he' : e' ∈ s.typesOf gv') (hnamed' : isNamed p.resource e') :
    ∃ candidates, s.resourceFor p = .error (.ambiguous p.render candidates) := by
  obtain ⟨t, ht, htg⟩ := exists_mem_resourceHits (by simp [hgroup]) (by simp [hversion]) he hnamed
  obtain ⟨t', ht', htg'⟩ := exists_mem_resourceHits (by simp [hgroup]) (by simp [hversion]) he' hnamed'
  have htt : t ≠ t' := by
    rintro rfl
    exact hne (htg.symm.trans htg')
  unfold resourceFor
  split
  · next hhits => simp [hhits] at ht
  · next hit hhits =>
    rw [hhits, List.mem_singleton] at ht ht'
    exact absurd (ht.trans ht'.symm) htt
  · exact ⟨_, rfl⟩

end Periscope.Snapshot
