import Periscope.Proofs.Text.Split
import Periscope.Resource.Entry
import Periscope.Resource.Name

/-!
# Texts of group versions and types

A group version is written as it was read, so that the text of a type tells its group version and its name. Which
texts are read is said by a grammar (`IsText`). Main result: `text_tells_parts`.
-/

namespace Periscope

open Text

namespace GroupVersion

theorem render_of_ofText? {text : String} {gv : GroupVersion} (h : ofText? text = some gv) : gv.render = text := by
  unfold ofText? at h
  split at h
  · split at h
    · cases h
    · cases h
      rfl
  · next group version hsplit =>
    split at h
    · cases h
    · next hparts =>
      cases h
      simp only [Bool.or_eq_true, not_or, Bool.not_eq_true] at hparts
      have hgroup : String.ofList group ≠ "" := by simpa using hparts.1.1
      apply String.toList_injective
      simp [render, hgroup, (splitFirst?_eq_some.1 hsplit).1]

/-- A group version that is read from a text has its only slash between its parts. -/
theorem notMem_slash_of_ofText? {text : String} {gv : GroupVersion} (h : ofText? text = some gv) :
    '/' ∉ gv.group.toList ∧ '/' ∉ gv.version.toList := by
  unfold ofText? at h
  split at h
  · next hsplit =>
    split at h
    · cases h
    · cases h
      exact ⟨by simp, splitFirst?_eq_none.1 hsplit⟩
  · next group version hsplit =>
    split at h
    · cases h
    · next hparts =>
      cases h
      simp only [Bool.or_eq_true, not_or, List.contains_iff_mem] at hparts
      simpa using ⟨(splitFirst?_eq_some.1 hsplit).2, hparts.2⟩

/-- A text between slashes that is not empty. -/
def IsPart (text : String) : Prop := text ≠ "" ∧ '/' ∉ text.toList

/-- The texts of group versions: a version alone, or a group and a version around one slash. -/
def IsText (text : String) : Prop :=
  IsPart text ∨ ∃ group version, text = group ++ "/" ++ version ∧ IsPart group ∧ IsPart version

/-- Neither part is a path, and there is a version. -/
structure Plain (gv : GroupVersion) : Prop where
  group : '/' ∉ gv.group.toList
  version : IsPart gv.version

variable {text : String} {gv : GroupVersion}

theorem Plain.ofText?_render (h : gv.Plain) : ofText? gv.render = some gv := by
  obtain ⟨group, version⟩ := gv
  by_cases hgroup : group = ""
  · -- the core group is not written, so there is no slash
    subst hgroup
    have hsplit : splitFirst? '/' version.toList = none := splitFirst?_eq_none.2 h.version.2
    have hversion : version.isEmpty = false := by simpa using h.version.1
    simp [render, ofText?, hsplit, hversion]
  · have hsplit : splitFirst? '/' (group.toList ++ '/' :: version.toList) = some (group.toList, version.toList) :=
      splitFirst?_eq_some.2 ⟨rfl, h.group⟩
    have hversion : version ≠ "" ∧ '/' ∉ version.toList := h.version
    simp [render, ofText?, hgroup, hsplit, hversion.1, hversion.2]

theorem plain_of_ofText? (h : ofText? text = some gv) : gv.Plain := by
  refine ⟨(notMem_slash_of_ofText? h).1, fun hversion => ?_, (notMem_slash_of_ofText? h).2⟩
  unfold ofText? at h
  split at h
  · split at h
    · cases h
    · next htext =>
      cases h
      exact htext (by simpa using hversion)
  · split at h
    · cases h
    · next hparts =>
      cases h
      simp only [Bool.or_eq_true, not_or] at hparts
      exact hparts.1.2 (by simpa using hversion)

theorem ofText?_eq_some_iff : ofText? text = some gv ↔ gv.Plain ∧ gv.render = text :=
  ⟨fun h => ⟨plain_of_ofText? h, render_of_ofText? h⟩, fun ⟨h, htext⟩ => htext ▸ h.ofText?_render⟩

theorem isText_iff : IsText text ↔ ∃ gv : GroupVersion, gv.Plain ∧ gv.render = text := by
  constructor
  · rintro (hversion | ⟨group, version, rfl, hgroup, hversion⟩)
    · exact ⟨⟨"", text⟩, ⟨List.not_mem_nil, hversion⟩, rfl⟩
    · exact ⟨⟨group, version⟩, ⟨hgroup.2, hversion⟩, by simp [render, hgroup.1]⟩
  · rintro ⟨⟨group, version⟩, h, rfl⟩
    by_cases hgroup : group = ""
    · exact .inl (by simpa [render, hgroup] using h.version)
    · exact .inr ⟨group, version, by simp [render, hgroup], ⟨hgroup, h.group⟩, h.version⟩

end GroupVersion

namespace GroupVersionResource

variable {t t' : GroupVersionResource}

/-- The group version is one that its text denotes, and the name is no path. -/
def Readable (t : GroupVersionResource) : Prop :=
  GroupVersion.ofText? t.groupVersion.render = some t.groupVersion ∧ '/' ∉ t.resource.toList

/-- The text of a type tells the type. -/
theorem Readable.render_inj (h : t.Readable) (h' : t'.Readable) (same : t.render = t'.render) : t = t' := by
  have hparts : t.groupVersion.render = t'.groupVersion.render ∧ t.resource = t'.resource := by
    have hlist := congrArg String.toList same
    simp only [render, String.toList_append, List.append_assoc] at hlist
    obtain ⟨hgv, hname⟩ := append_cons_inj h.2 h'.2 hlist
    exact ⟨String.toList_injective hgv, String.toList_injective hname⟩
  have hgv : t.groupVersion = t'.groupVersion := Option.some.inj (h.1.symm.trans (hparts.1 ▸ h'.1))
  obtain ⟨group, version, name⟩ := t
  obtain ⟨group', version', name'⟩ := t'
  cases hgv
  cases hparts.2
  rfl

/-- The group version is plain, and the name is no path. -/
def Plain (t : GroupVersionResource) : Prop := t.groupVersion.Plain ∧ '/' ∉ t.resource.toList

theorem Plain.readable (h : t.Plain) : t.Readable := ⟨h.1.ofText?_render, h.2⟩

theorem nodup_map_render {types : List GroupVersionResource} (hreadable : ∀ t ∈ types, t.Readable)
    (hdifferent : types.Nodup) : (types.map render).Nodup :=
  List.pairwise_map.2 (hdifferent.imp_of_mem fun ht hu hne same =>
    hne ((hreadable _ ht).render_inj (hreadable _ hu) same))

end GroupVersionResource

/-- A text denotes a group version exactly if it is one or two parts around a slash, and then it is the text of that
group version. Every group version with plain parts is read back from its text, and types with plain parts have
different texts. -/
theorem text_tells_parts :
    (∀ text, (GroupVersion.ofText? text).isSome ↔ GroupVersion.IsText text) ∧
    (∀ text gv, GroupVersion.ofText? text = some gv → gv.render = text) ∧
    (∀ gv : GroupVersion, gv.Plain → GroupVersion.ofText? gv.render = some gv) ∧
    ∀ t t' : GroupVersionResource, t.Plain → t'.Plain → t.render = t'.render → t = t' := by
  refine ⟨fun text => ?_, fun text gv => GroupVersion.render_of_ofText?, fun gv h => h.ofText?_render,
    fun t t' h h' => h.readable.render_inj h'.readable⟩
  rw [Option.isSome_iff_exists, GroupVersion.isText_iff]
  exact exists_congr fun gv => GroupVersion.ofText?_eq_some_iff

theorem text_tells_parts_apps :
    (GroupVersion.ofText? "apps/v1").isSome ∧ GroupVersion.ofText? "apps/v1" = some ⟨"apps", "v1"⟩ ∧
    (⟨"apps", "v1"⟩ : GroupVersion).render = "apps/v1" ∧
    (⟨"", "v1"⟩ : GroupVersion).Plain ∧ GroupVersion.ofText? (⟨"", "v1"⟩ : GroupVersion).render = some ⟨"", "v1"⟩ ∧
    ∀ t : GroupVersionResource, t.Plain → t.render = "v1/pods" → t = ⟨"", "v1", "pods"⟩ := by
  obtain ⟨hgrammar, hrender, hread, hinj⟩ := text_tells_parts
  have hversion : GroupVersion.IsPart "v1" := ⟨by decide, by decide⟩
  have htext : GroupVersion.IsText "apps/v1" := .inr ⟨"apps", "v1", rfl, ⟨by decide, by decide⟩, hversion⟩
  have happs : GroupVersion.ofText? "apps/v1" = some ⟨"apps", "v1"⟩ := by decide
  have hcore : (⟨"", "v1"⟩ : GroupVersion).Plain := ⟨by decide, hversion⟩
  have hpods : (⟨"", "v1", "pods"⟩ : GroupVersionResource).Plain := ⟨hcore, by decide⟩
  exact ⟨(hgrammar _).2 htext, happs, hrender _ _ happs, hcore, hread _ hcore,
    fun t ht hsame => hinj t _ ht hpods (hsame.trans (by decide))⟩

end Periscope
