import Mathlib.Data.List.Forall2
import Periscope.Discovery.Document
import Periscope.Proofs.Json.Members
import Periscope.Proofs.Json.Printed

/-!
# Documents are read back

A snapshot that is written as a document, in either form and with the members of its objects in any order, is read
back from the text. Main result: `ofText_written`.
-/

namespace Periscope

open Json

variable {v : Json}

/-! ## Written forms -/

/-- The members of an entry, in the order of its fields; empty lists are left out. -/
def ResourceEntry.members (e : ResourceEntry) : List (String × Json) :=
  [("name", .str e.name), ("singularName", .str e.singularName), ("namespaced", .bool e.namespaced),
    ("kind", .str e.kind)] ++ listMember "shortNames" e.shortNames ++ listMember "verbs" e.verbs

/-- The value is the entry, with its members in some order. -/
def ResourceEntry.WrittenAs (e : ResourceEntry) (v : Json) : Prop :=
  ∃ members, v = .obj members ∧ members.Perm e.members

/-- The value is the list, with the members of it and of its entries in some order. -/
def ResourceList.WrittenAs (l : ResourceList) (v : Json) : Prop :=
  ∃ members entries, v = .obj members ∧
    members.Perm [("groupVersion", .str l.groupVersion), ("resources", .arr entries)] ∧
    List.Forall₂ ResourceEntry.WrittenAs l.resources entries

/-- The reasons of failed group versions as members. -/
def reasonMembers (failures : List (String × String)) : List (String × Json) :=
  failures.map fun (groupVersion, reason) => (groupVersion, .str reason)

/-- The value is the snapshot, with the members of its objects in some order. -/
def Snapshot.WrittenAs (s : Snapshot) (v : Json) : Prop :=
  ∃ members lists failed, v = .obj members ∧
    members.Perm [("resources", .arr lists), ("failedGroups", .obj failed)] ∧
    List.Forall₂ ResourceList.WrittenAs s.lists lists ∧ failed.Perm (reasonMembers s.failedGroups)

/-! ## Entries -/

namespace ResourceEntry

variable {e : ResourceEntry}

theorem nodup_members (e : ResourceEntry) : (e.members.map Prod.fst).Nodup := by
  unfold members listMember
  split <;> split <;> simp

theorem forall_mem_listMember {p : String × Json → Prop} {name : String} {texts : List String}
    (h : p (name, .arr (texts.map .str))) : ∀ m ∈ listMember name texts, p m := by
  unfold listMember
  split
  · simp
  · simpa using h

theorem fit_texts (texts : List String) :
    Shape.fit (.list .text) (.arr (texts.map .str)) = .ok (.arr (texts.map .str)) := by
  refine Shape.fit_list fun item hitem => ?_
  obtain ⟨s, -, rfl⟩ := List.mem_map.1 hitem
  rw [Shape.fit]

theorem fit_of_writtenAs (h : e.WrittenAs v) : shape.fit v = .ok v := by
  obtain ⟨members, rfl, hperm⟩ := h
  refine Shape.fit_record_self hperm e.nodup_members ?_ ?_
  · simp only [ResourceEntry.members, List.forall_mem_append]
    refine ⟨⟨?_, forall_mem_listMember ?_⟩, forall_mem_listMember ?_⟩
    · simp [Shape.hasField, Shape.fitField, Shape.fit]
    · simp [Shape.hasField, Shape.fitField, fit_texts]
    · simp [Shape.hasField, Shape.fitField, fit_texts]
  · simp [ResourceEntry.members]

theorem lookup_listMember_of_ne {key name : String} {texts : List String} (h : key ≠ name) :
    (listMember name texts).lookup key = none := by
  have hkey : (key == name) = false := by simpa using h
  unfold listMember
  split <;> simp [List.lookup_cons, hkey]

/-- A list that is left out is read as the empty list that it is. -/
theorem texts_of_listMember (name : String) (texts : List String) :
    ((((listMember name texts).lookup name).bind arr?).getD []).filterMap str? = texts := by
  unfold listMember
  split
  · next hempty => simpa using hempty
  · have htexts : texts.filterMap (str? ∘ Json.str) = texts := List.filterMap_some
    simpa [arr?, List.filterMap_map] using htexts

theorem ofRecord_of_writtenAs (h : e.WrittenAs v) : ofRecord v = e := by
  obtain ⟨members, rfl, hperm⟩ := h
  have hshort := texts_of_listMember "shortNames" e.shortNames
  have hverbs := texts_of_listMember "verbs" e.verbs
  simp only [ofRecord, textAt, textAt?, flagAt, textsAt, itemsAt, get?_of_perm hperm e.nodup_members,
    ResourceEntry.members, List.cons_append, List.nil_append]
  simp [List.lookup_cons, List.lookup_append, str?, lookup_listMember_of_ne, hshort, hverbs]

theorem numberless_of_writtenAs (h : e.WrittenAs v) (depth : Nat) : Numberless (depth + 2) v := by
  obtain ⟨members, rfl, hperm⟩ := h
  have htexts : ∀ texts : List String, Numberless (depth + 1) (.arr (texts.map .str)) := by
    intro texts item hitem
    obtain ⟨s, -, rfl⟩ := List.mem_map.1 hitem
    cases depth <;> trivial
  have hmembers : ∀ m ∈ e.members, Numberless (depth + 1) m.2 := by
    simp only [ResourceEntry.members, List.forall_mem_append]
    exact ⟨⟨by simp [Numberless], forall_mem_listMember (htexts _)⟩, forall_mem_listMember (htexts _)⟩
  exact fun m hm => hmembers m (hperm.mem_iff.1 hm)

theorem writtenAs_toJson (e : ResourceEntry) : e.WrittenAs e.toJson :=
  ⟨_, rfl, sortMembers_perm e.nodup_members⟩

end ResourceEntry

/-! ## Lists of written values -/

section

variable {α : Type} {R : α → Json → Prop} {xs : List α} {vs : List Json}

theorem forall_mem_of_forall₂ {p : Json → Prop} (h : List.Forall₂ R xs vs) (hp : ∀ a v, R a v → p v) :
    ∀ v ∈ vs, p v := by
  induction h with
  | nil => simp
  | cons hfirst _ ih => exact List.forall_mem_cons.2 ⟨hp _ _ hfirst, ih⟩

theorem forall₂_map {written : α → Json} (h : ∀ a, R a (written a)) : List.Forall₂ R xs (xs.map written) :=
  List.forall₂_map_right_iff.2 (List.forall₂_same.2 fun a _ => h a)

theorem fit_of_forall₂ {of : Shape} (h : List.Forall₂ R xs vs) (hfit : ∀ a v, R a v → of.fit v = .ok v) :
    Shape.fit (.list of) (.arr vs) = .ok (.arr vs) :=
  Shape.fit_list (forall_mem_of_forall₂ h hfit)

theorem map_eq_of_forall₂ {read : Json → α} (h : List.Forall₂ R xs vs) (hread : ∀ a v, R a v → read v = a) :
    vs.map read = xs := by
  induction h with
  | nil => rfl
  | cons hfirst _ ih => rw [List.map_cons, hread _ _ hfirst, ih]

end

/-! ## Resource lists -/

namespace ResourceList

variable {l : ResourceList}

theorem fit_of_writtenAs (h : l.WrittenAs v) : shape.fit v = .ok v := by
  obtain ⟨members, entries, rfl, hperm, hentries⟩ := h
  have hfit := fit_of_forall₂ hentries fun _ _ => ResourceEntry.fit_of_writtenAs
  refine Shape.fit_record_self hperm (by simp) ?_ ?_
  · simpa [Shape.hasField, Shape.fitField, Shape.fit] using hfit
  · simp

theorem ofRecord_of_writtenAs (h : l.WrittenAs v) : ofRecord v = l := by
  obtain ⟨members, entries, rfl, hperm, hentries⟩ := h
  have hread := map_eq_of_forall₂ hentries fun _ _ => ResourceEntry.ofRecord_of_writtenAs
  simp [ofRecord, textAt, textAt?, itemsAt, get?_of_perm hperm, List.lookup_cons, str?, arr?, hread]

theorem numberless_of_writtenAs (h : l.WrittenAs v) (depth : Nat) : Numberless (depth + 4) v := by
  obtain ⟨members, entries, rfl, hperm, hentries⟩ := h
  have hentry := forall_mem_of_forall₂ hentries fun e v he => ResourceEntry.numberless_of_writtenAs he depth
  intro m hm
  revert m
  simpa [hperm.mem_iff, Numberless] using hentry

theorem writtenAs_toJson (l : ResourceList) : l.WrittenAs l.toJson :=
  ⟨_, _, rfl, sortMembers_perm (by simp), forall₂_map ResourceEntry.writtenAs_toJson⟩

end ResourceList

/-! ## Snapshots -/

namespace Snapshot

variable {s : Snapshot}

theorem fitTexts_of_forall {members : List (String × Json)} (h : ∀ m ∈ members, ∃ s, m.2 = .str s) :
    Shape.fitTexts members = .ok members := by
  induction members with
  | nil => rfl
  | cons m rest ih =>
    obtain ⟨⟨s, hs⟩, hrest⟩ := List.forall_mem_cons.1 h
    obtain ⟨key, v⟩ := m
    obtain rfl : v = .str s := hs
    rw [Shape.fitTexts, ih hrest]
    rfl

theorem map_fst_reasonMembers (failures : List (String × String)) :
    (reasonMembers failures).map Prod.fst = failures.map Prod.fst := by
  simp [reasonMembers]

theorem reasonsOf_reasonMembers (failures : List (String × String)) :
    reasonsOf (.obj (reasonMembers failures)) = failures := by
  simp [reasonsOf, reasonMembers, members, List.filterMap_map, str?]

theorem fit_texts_of_perm {failures : List (String × String)} {failed : List (String × Json)}
    (h : failed.Perm (reasonMembers failures)) (ascending : (failures.map Prod.fst).Pairwise (· < ·)) :
    Shape.fit .texts (.obj failed) = .ok (.obj (reasonMembers failures)) := by
  have htexts : ∀ m ∈ failed, ∃ s, m.2 = .str s := by
    intro m hm
    obtain ⟨failure, -, rfl⟩ := List.mem_map.1 (h.mem_iff.1 hm)
    exact ⟨failure.2, rfl⟩
  rw [← map_fst_reasonMembers] at ascending
  rw [Shape.fit, fitTexts_of_forall htexts, ← sortMembers_eq h ascending]
  rfl

/-- The value of a member of a document in the form of its shape: the failed group versions are in their order. -/
def fitted (s : Snapshot) (m : String × Json) : Json :=
  if m.1 = "failedGroups" then .obj (reasonMembers s.failedGroups) else m.2

theorem ofJson_of_writtenAs (h : s.WrittenAs v) (ascending : (s.failedGroups.map Prod.fst).Pairwise (· < ·)) :
    ofJson v = .ok s := by
  obtain ⟨members, lists, failed, rfl, hperm, hlists, hfailed⟩ := h
  have hfit := fit_of_forall₂ hlists fun _ _ => ResourceList.fit_of_writtenAs
  have hread := map_eq_of_forall₂ hlists fun _ _ => ResourceList.ofRecord_of_writtenAs
  have hreasons := fit_texts_of_perm hfailed ascending
  have hshape : shape.fit (.obj members) = .ok (.obj (members.map fun m => (m.1, s.fitted m))) := by
    refine Shape.fit_record s.fitted hperm (by simp) ?_ (by simp)
    simp [Shape.hasField, Shape.fitField, hfit, hreasons, fitted]
  have hsorted : (members.map fun m => (m.1, s.fitted m)).Perm
      [("resources", .arr lists), ("failedGroups", .obj (reasonMembers s.failedGroups))] :=
    (hperm.map _).trans (.of_eq (by simp [fitted]))
  simp only [ofJson, hshape, Except.toOption, Option.map_some]
  simp [ofRecord, itemsAt, get?_of_perm hsorted, List.lookup_cons, arr?, hread, reasonsOf_reasonMembers]

theorem ofJson_arr {vs : List Json} {lists : List ResourceList} (h : List.Forall₂ ResourceList.WrittenAs lists vs) :
    ofJson (.arr vs) = .ok ⟨lists, []⟩ := by
  have hfit := fit_of_forall₂ h fun _ _ => ResourceList.fit_of_writtenAs
  have hread := map_eq_of_forall₂ h fun _ _ => ResourceList.ofRecord_of_writtenAs
  simp [ofJson, hfit, Except.toOption, arr?, hread]

theorem numberless_of_writtenAs (h : s.WrittenAs v) (depth : Nat) : Numberless (depth + 6) v := by
  obtain ⟨members, lists, failed, rfl, hperm, hlists, hfailed⟩ := h
  have hlist := forall_mem_of_forall₂ hlists fun l v hl => ResourceList.numberless_of_writtenAs hl depth
  have hreason : ∀ m ∈ failed, Numberless (depth + 4) m.2 := by
    intro m hm
    obtain ⟨failure, -, rfl⟩ := List.mem_map.1 (hfailed.mem_iff.1 hm)
    trivial
  intro m hm
  rcases List.mem_pair.1 (hperm.mem_iff.1 hm) with rfl | rfl
  · exact hlist
  · exact hreason

theorem writtenAs_toJson (s : Snapshot) : s.WrittenAs s.toJson :=
  ⟨_, _, _, rfl, sortMembers_perm (by simp), forall₂_map ResourceList.writtenAs_toJson, .refl _⟩

theorem ofText_eq_of_ofJson {text : String} (hread : Json.written? text = some v) (hv : ofJson v = .ok s) :
    ofText text = .ok s := by
  rw [ofText, hread]
  simp [hv]

/-- The text of a document denotes the snapshot that is written, whatever the order of the members; the bare array of
the lists denotes the lists without failures. -/
theorem ofText_written (s : Snapshot) (ascending : (s.failedGroups.map Prod.fst).Pairwise (· < ·)) :
    (∀ v, s.WrittenAs v → ofText v.compact = .ok s) ∧
    (∀ vs, List.Forall₂ ResourceList.WrittenAs s.lists vs → ofText (Json.arr vs).compact = .ok ⟨s.lists, []⟩) ∧
    ofText s.toJson.compact = .ok s ∧
    ofText (Json.arr (s.lists.map ResourceList.toJson)).compact = .ok ⟨s.lists, []⟩ := by
  have hrecord : ∀ v, s.WrittenAs v → ofText v.compact = .ok s := fun v h =>
    ofText_eq_of_ofJson (written?_compact (numberless_of_writtenAs h 121)) (ofJson_of_writtenAs h ascending)
  have harray : ∀ vs, List.Forall₂ ResourceList.WrittenAs s.lists vs →
      ofText (Json.arr vs).compact = .ok ⟨s.lists, []⟩ := fun vs h =>
    ofText_eq_of_ofJson
      (written?_compact (forall_mem_of_forall₂ h fun l v hl => ResourceList.numberless_of_writtenAs hl 122))
      (ofJson_arr h)
  exact ⟨hrecord, harray, hrecord _ s.writtenAs_toJson, harray _ (forall₂_map ResourceList.writtenAs_toJson)⟩

theorem ofText_written_nodes :
    ofText ("\x7B\"resources\":[\x7B\"groupVersion\":\"v1\",\"resources\":[\x7B\"name\":\"nodes\"," ++
      "\"singularName\":\"node\",\"namespaced\":false,\"kind\":\"Node\",\"shortNames\":[\"no\"]\x7D]\x7D]," ++
      "\"failedGroups\":\x7B\"batch/v1\":\"re\\u0001fused\",\"apps/v1\":\"\"\x7D\x7D") =
      .ok ⟨[⟨"v1", [⟨"nodes", "node", false, "Node", ["no"], []⟩]⟩],
        [("apps/v1", ""), ("batch/v1", "re\x01fused")]⟩ := by
  have hwritten := (ofText_written ⟨[⟨"v1", [⟨"nodes", "node", false, "Node", ["no"], []⟩]⟩],
    [("apps/v1", ""), ("batch/v1", "re\x01fused")]⟩ (by decide)).1
  have hread := hwritten
    (.obj [("resources", .arr [.obj [("groupVersion", .str "v1"),
        ("resources", .arr [.obj [("name", .str "nodes"), ("singularName", .str "node"), ("namespaced", .bool false),
          ("kind", .str "Node"), ("shortNames", .arr [.str "no"])]])]]),
      ("failedGroups", .obj [("batch/v1", .str "re\x01fused"), ("apps/v1", .str "")])])
    ⟨_, _, _, rfl, .refl _, .cons ⟨_, _, rfl, .refl _, .cons ⟨_, rfl, .refl _⟩ .nil⟩ .nil, .swap _ _ _⟩
  refine Eq.trans (congrArg ofText ?_) hread
  decide +kernel

end Snapshot

end Periscope
