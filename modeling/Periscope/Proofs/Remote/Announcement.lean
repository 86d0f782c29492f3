import Mathlib.Data.List.Forall2
import Periscope.Remote.Discovery
import Periscope.Proofs.Discovery.Grouping
import Periscope.Proofs.Json.Shape

/-!
# What a server announces and what is read of it

Two root documents announce group versions. Reading the API surface asks for each of them: what loads is a list of
the snapshot, in the order of the announcement, and what does not is a failure with its reason. Since a group
announces its preferred version first, that version is what the snapshot prefers if it loaded. Main result:
`fetch_accounts_for_announced`.
-/

namespace Periscope

open Json

/-! ## Announcements -/

namespace Remote

/-- What a group announces. -/
structure AnnouncedGroup where
  preferred : Option String
  versions : List String

/-- What the two root documents announce. -/
structure Announcement where
  core : List String
  groups : List AnnouncedGroup

namespace AnnouncedGroup

/-- The preferred version, then the others in their order. -/
def inOrder (g : AnnouncedGroup) : List String :=
  match g.preferred with
  | none => g.versions
  | some gv => gv :: g.versions.filter (· ≠ gv)

/-- The entry says just that: what it prefers is the version that is given if one is, and every version has a
name. -/
structure SaidBy (g : AnnouncedGroup) (entry : Json) : Prop where
  preferred : ∀ gv, g.preferred = some gv →
    ∃ v, entry.get? "preferredVersion" = some v ∧ v.textAt? "groupVersion" = some gv
  unpreferred : g.preferred = none → ∀ v, entry.get? "preferredVersion" = some v → v = .null
  versions : (entry.itemsAt "versions").map (·.textAt? "groupVersion") = g.versions.map some

/-- The group of an entry. -/
def ofEntry (entry : Json) : AnnouncedGroup where
  preferred := (entry.get? "preferredVersion").bind (·.textAt? "groupVersion")
  versions := (entry.itemsAt "versions").filterMap (·.textAt? "groupVersion")

private theorem filterMap_of_map {α β : Type} {xs : List α} {ys : List β} {f : α → Option β}
    (h : xs.map f = ys.map some) : xs.filterMap f = ys := by
  have hys : (ys.map some).filterMap id = ys := by simp [List.filterMap_map]
  rw [← hys, ← h, List.filterMap_map]
  rfl

theorem SaidBy.eq {g : AnnouncedGroup} {entry : Json} (h : g.SaidBy entry) : g = ofEntry entry := by
  obtain ⟨preferred, versions⟩ := g
  rw [ofEntry, filterMap_of_map h.versions]
  congr 1
  cases preferred with
  | none =>
    cases hget : entry.get? "preferredVersion" with
    | none => rfl
    | some v =>
      obtain rfl := h.unpreferred rfl v hget
      rfl
  | some gv =>
    obtain ⟨v, hget, hv⟩ := h.preferred gv rfl
    rw [hget, Option.bind_some, hv]

theorem orderedVersions_eq (entry : Json) : orderedVersions entry = (ofEntry entry).inOrder := by
  simp only [orderedVersions, ofEntry, inOrder]
  cases (entry.get? "preferredVersion").bind (·.textAt? "groupVersion") with
  | none => simp
  | some gv =>
    simp only [Option.toList_some, List.cons_append, List.nil_append, List.cons.injEq, true_and]
    congr 1
    funext other
    by_cases h : other = gv <;> simp [h]

end AnnouncedGroup

namespace Announcement

/-- All that is announced: the versions of the core group, then group after group. -/
def groupVersions (a : Announcement) : List String := a.core ++ a.groups.flatMap AnnouncedGroup.inOrder

/-- The documents say just that. -/
structure SaidBy (a : Announcement) (core groups : Json) : Prop where
  core : (core.itemsAt "versions").map str? = a.core.map some
  groups : List.Forall₂ AnnouncedGroup.SaidBy a.groups (groups.itemsAt "groups")

/-- The announcement of two documents. -/
def ofDocuments (core groups : Json) : Announcement where
  core := core.textsAt "versions"
  groups := (groups.itemsAt "groups").map AnnouncedGroup.ofEntry

theorem SaidBy.eq {a : Announcement} {core groups : Json} (h : a.SaidBy core groups) :
    a = ofDocuments core groups := by
  obtain ⟨versions, entries⟩ := a
  have hentries : entries = (groups.itemsAt "groups").map AnnouncedGroup.ofEntry := by
    rw [← List.forall₂_eq_eq_eq, List.forall₂_map_right_iff]
    exact h.groups.imp fun _ _ said => said.eq
  rw [ofDocuments, textsAt, AnnouncedGroup.filterMap_of_map h.core, hentries]

end Announcement

/-! ## Root documents -/

/-- The shape of a group in the document about the other groups. -/
private def groupShape : Shape :=
  .record "ApiGroup"
    [("versions", .defaulted, .list versionShape), ("preferredVersion", .nullable, .optional versionShape)]

variable {v core groups : Json}

/-- Where every item has an image, none is passed over. -/
private theorem map_eq_map_some {α β : Type} {xs : List α} {f : α → Option β} (h : ∀ x ∈ xs, ∃ y, f x = some y) :
    xs.map f = (xs.filterMap f).map some := by
  induction xs with
  | nil => rfl
  | cons x rest ih =>
    obtain ⟨y, hy⟩ := h x List.mem_cons_self
    rw [List.filterMap_cons_some hy, List.map_cons, List.map_cons, hy,
      ih fun x hx => h x (List.mem_cons_of_mem _ hx)]

private theorem exists_groupVersion (h : versionShape.Conforms v) : ∃ gv, v.textAt? "groupVersion" = some gv :=
  Shape.exists_textAt? h (by simp) (by simp [Shape.ConformsField])

private theorem saidBy_ofEntry {entry : Json} (h : groupShape.Conforms entry) :
    (AnnouncedGroup.ofEntry entry).SaidBy entry where
  preferred gv hgv := Option.bind_eq_some_iff.1 hgv
  unpreferred hnone w hw := by
    rcases Shape.conformsField_of_get? h hw with ⟨hname, -⟩ | ⟨-, null | version⟩ | none
    · exact absurd hname (by decide)
    · exact null
    · obtain ⟨gv, hgv⟩ := exists_groupVersion version
      simp [AnnouncedGroup.ofEntry, hw, hgv] at hnone
    · exact none.elim
  versions := by
    refine map_eq_map_some fun v hv => ?_
    exact exists_groupVersion (Shape.conforms_of_mem_itemsAt versionShape h (by simp [Shape.ConformsField]) v hv)

/-- Nothing that the documents say is passed over. -/
private theorem saidBy_ofDocuments (hcore : coreShape.Conforms core) (hgroups : groupsShape.Conforms groups) :
    (Announcement.ofDocuments core groups).SaidBy core groups where
  core := by
    refine map_eq_map_some fun v hv => ?_
    obtain ⟨gv, rfl⟩ := Shape.conforms_of_mem_itemsAt .text hcore (by simp [Shape.ConformsField]) v hv
    exact ⟨gv, rfl⟩
  groups := by
    rw [Announcement.ofDocuments, List.forall₂_map_left_iff, List.forall₂_same]
    have entries : ∀ entry ∈ groups.itemsAt "groups", groupShape.Conforms entry :=
      Shape.conforms_of_mem_itemsAt groupShape hgroups (by simp [Shape.ConformsField, groupShape])
    exact fun entry hentry => saidBy_ofEntry (entries entry hentry)

namespace DiscoveryServer

open Http

variable {s : DiscoveryServer} {t : Transport}

/-- A document loads where a request to its path is answered with success and a body of the shape. -/
theorem load_eq_ok {shape : Shape} {path : String} :
    s.load t shape path = .ok v ↔
      ∃ url response, Url.ofText? (s.base ++ path) = .ok url ∧ Http.get t url s.token = .ok response ∧
        response.isSuccess ∧ shape.ofText response.body = .ok v := by
  unfold load
  dsimp only
  split
  · next hurl => simp [hurl]
  · next url hurl =>
    split
    · next hget => simp [hurl, hget]
    · next response hget =>
      cases hsuccess : response.isSuccess with
      | false => simp [hurl, hget, hsuccess]
      | true => cases hbody : shape.ofText response.body <;> simp [hurl, hget, hsuccess, hbody]

private theorem conforms_of_load {shape : Shape} {path : String} (h : s.load t shape path = .ok v) :
    shape.Conforms v := by
  obtain ⟨_, _, -, -, -, hbody⟩ := load_eq_ok.1 h
  exact Shape.conforms_of_ofText hbody

private theorem announced_eq {a : Announcement} (hcore : s.load t coreShape "/api" = .ok core)
    (hgroups : s.load t groupsShape "/apis" = .ok groups) (said : a.SaidBy core groups) :
    s.announced t = .ok a.groupVersions := by
  simp only [announced, hcore, hgroups, bind, Except.bind, said.eq, Announcement.groupVersions,
    Announcement.ofDocuments, List.flatMap_map]
  congr 3
  funext entry
  exact AnnouncedGroup.orderedVersions_eq entry

/-! ## Failures -/

section

variable {gv reason : String} {failures : List (String × String)}

/-- The names ascend, so every name stands once. -/
def Ascending (failures : List (String × String)) : Prop := failures.Pairwise fun a b => a.1 < b.1

theorem mem_addFailure (ascending : Ascending failures) {x : String × String} :
    x ∈ addFailure gv reason failures ↔ x = (gv, reason) ∨ x.1 ≠ gv ∧ x ∈ failures := by
  induction failures with
  | nil => simp [addFailure]
  | cons first rest ih =>
    obtain ⟨other, old⟩ := first
    obtain ⟨hfirst, hrest⟩ := List.pairwise_cons.1 ascending
    rw [addFailure]
    split
    · next hlt =>
      -- everything behind is above `other`, so the name is nowhere yet
      have apart : ∀ y ∈ (other, old) :: rest, y.1 ≠ gv := by
        intro y hy
        rcases List.mem_cons.1 hy with rfl | hy
        · exact (String.ne_of_lt hlt).symm
        · exact (String.ne_of_lt (String.lt_trans hlt (hfirst y hy))).symm
      rw [List.mem_cons]
      exact or_congr_right ⟨fun hx => ⟨apart x hx, hx⟩, And.right⟩
    · split
      · next heq =>
        obtain rfl : gv = other := by simpa using heq
        have apart : ∀ y ∈ rest, y.1 ≠ gv := fun y hy => (String.ne_of_lt (hfirst y hy)).symm
        simp only [List.mem_cons]
        constructor
        · exact Or.imp_right fun hx => ⟨apart x hx, .inr hx⟩
        · rintro (hx | ⟨hne, rfl | hx⟩)
          · exact .inl hx
          · exact absurd rfl hne
          · exact .inr hx
      · next hne =>
        have hother : other ≠ gv := fun e => hne (by simp [e])
        rw [List.mem_cons, List.mem_cons, ih hrest]
        constructor
        · rintro (rfl | hx | ⟨hx, hmem⟩)
          · exact .inr ⟨hother, .inl rfl⟩
          · exact .inl hx
          · exact .inr ⟨hx, .inr hmem⟩
        · rintro (hx | ⟨hx, rfl | hmem⟩)
          · exact .inr (.inl hx)
          · exact .inl rfl
          · exact .inr (.inr ⟨hx, hmem⟩)

theorem ascending_addFailure (ascending : Ascending failures) : Ascending (addFailure gv reason failures) := by
  induction failures with
  | nil => exact List.pairwise_singleton _ _
  | cons first rest ih =>
    obtain ⟨other, old⟩ := first
    obtain ⟨hfirst, hrest⟩ := List.pairwise_cons.1 ascending
    rw [addFailure]
    split
    · next hlt =>
      refine .cons (fun y hy => ?_) ascending
      rcases List.mem_cons.1 hy with rfl | hy
      · exact hlt
      · exact String.lt_trans hlt (hfirst y hy)
    · next hle =>
      split
      · next heq =>
        obtain rfl : gv = other := by simpa using heq
        exact .cons hfirst hrest
      · next hne =>
        have hlt : other < gv := by
          refine Decidable.not_not.1 fun hge => hne ?_
          simpa using String.le_antisymm (String.not_lt.1 hge) (String.not_lt.1 hle)
        refine .cons (fun y hy => ?_) (ih hrest)
        rcases (mem_addFailure hrest).1 hy with rfl | ⟨-, hy⟩
        · exact hlt
        · exact hfirst y hy

end

/-! ## Gathering -/

section

variable {load : String → Except String ResourceList} {seen : List String} {snapshot : Snapshot}

/-- The snapshot holds what loaded of the group versions, in their order, and why the others did not load. -/
structure Accounts (load : String → Except String ResourceList) (groupVersions : List String)
    (snapshot : Snapshot) : Prop where
  lists : snapshot.lists = groupVersions.filterMap fun gv => (load gv).toOption
  failed : ∀ gv reason, (gv, reason) ∈ snapshot.failedGroups ↔ gv ∈ groupVersions ∧ load gv = .error reason
  ascending : Ascending snapshot.failedGroups

/-- The snapshot with one group version more. -/
private def addLoaded (load : String → Except String ResourceList) (snapshot : Snapshot) (gv : String) : Snapshot :=
  match load gv with
  | .ok list => { snapshot with lists := snapshot.lists ++ [list] }
  | .error reason => { snapshot with failedGroups := addFailure gv reason snapshot.failedGroups }

private theorem accounts_addLoaded (h : Accounts load seen snapshot) (gv : String) :
    Accounts load (seen ++ [gv]) (addLoaded load snapshot gv) := by
  unfold addLoaded
  split
  · next list hload =>
    refine ⟨by simp [h.lists, hload, Except.toOption], fun other reason => ?_, h.ascending⟩
    rw [h.failed, List.mem_append, List.mem_singleton]
    refine and_congr_left fun hother => (or_iff_left ?_).symm
    rintro rfl
    cases hload.symm.trans hother
  · next reason hload =>
    refine ⟨by simp [h.lists, hload, Except.toOption], fun other reason' => ?_, ascending_addFailure h.ascending⟩
    rw [mem_addFailure h.ascending, h.failed, List.mem_append, List.mem_singleton, Prod.mk.injEq]
    by_cases hother : other = gv
    · subst hother
      simp [hload, eq_comm]
    · simp [hother]

/-- Whatever loads and fails on the way, everything is accounted for. -/
theorem accounts_gather (load : String → Except String ResourceList) (groupVersions : List String) :
    Accounts load groupVersions (gather load groupVersions) := by
  -- what has been seen grows by the group versions that are still to come
  suffices h : ∀ more seen snapshot, Accounts load seen snapshot →
      Accounts load (seen ++ more) (more.foldl (addLoaded load) snapshot) from
    h groupVersions [] ⟨[], []⟩ ⟨rfl, by simp, .nil⟩
  intro more
  induction more with
  | nil =>
    intro seen snapshot h
    simpa using h
  | cons gv more ih =>
    intro seen snapshot h
    simpa using ih (seen ++ [gv]) _ (accounts_addLoaded h gv)

end

end DiscoveryServer

/-! ## Preferred versions -/

/-- The group versions of the group are announced in the entry and nowhere else, and the entry announces no
others. -/
def Announcement.Gathers (a : Announcement) (g : String) (entry : AnnouncedGroup) : Prop :=
  (∀ gv ∈ entry.inOrder, inGroup g gv) ∧
    ∃ before after, a.groups = before ++ entry :: after ∧
      ∀ gv ∈ a.core ++ (before ++ after).flatMap AnnouncedGroup.inOrder, ¬inGroup g gv

theorem Announcement.Gathers.filter_eq {a : Announcement} {g : String} {entry : AnnouncedGroup}
    (h : a.Gathers g entry) : a.groupVersions.filter (inGroup g) = entry.inOrder := by
  obtain ⟨inside, before, after, hgroups, outside⟩ := h
  have nothing (gvs : List String)
      (hgvs : ∀ gv ∈ gvs, gv ∈ a.core ++ (before ++ after).flatMap AnnouncedGroup.inOrder) :
      gvs.filter (inGroup g) = [] :=
    List.filter_eq_nil_iff.2 fun gv hgv => outside gv (hgvs gv hgv)
  have hcore := nothing a.core fun gv hgv => List.mem_append_left _ hgv
  have hbefore := nothing (before.flatMap AnnouncedGroup.inOrder) fun gv hgv => by simp [List.mem_flatMap.1 hgv]
  have hafter := nothing (after.flatMap AnnouncedGroup.inOrder) fun gv hgv => by simp [List.mem_flatMap.1 hgv]
  simp only [groupVersions, hgroups, List.flatMap_append, List.flatMap_cons, List.filter_append, hcore, hbefore,
    hafter, List.filter_eq_self.2 inside, List.nil_append, List.append_nil]

/-- Of each group one list is preferred, the first one that loaded, and so that of the preferred version if it
did. -/
structure Prefers (load : String → Except String ResourceList) (a : Announcement) (p : PreferredResources) :
    Prop where
  first : ∀ g, p.lists.filter (inGroup g ·.groupVersion) =
    ((a.groupVersions.filter (inGroup g)).findSome? fun gv => (load gv).toOption).toList
  entry : ∀ g entry, a.Gathers g entry →
    p.lists.filter (inGroup g ·.groupVersion) = (entry.inOrder.findSome? fun gv => (load gv).toOption).toList
  preferred : ∀ g entry gv list, a.Gathers g entry → entry.preferred = some gv → load gv = .ok list →
    p.lists.filter (inGroup g ·.groupVersion) = [list]

namespace DiscoveryServer

open Http

/-- Where every list is of the group version that was asked for, the first list of a group is that of the first
group version of the group that loaded. -/
theorem find?_loaded {load : String → Except String ResourceList} {gvs : List String} {g : String}
    (named : ∀ gv ∈ gvs, ∀ list, load gv = .ok list → list.groupVersion = gv) :
    (gvs.filterMap fun gv => (load gv).toOption).find? (inGroup g ·.groupVersion) =
      (gvs.filter (inGroup g)).findSome? fun gv => (load gv).toOption := by
  -- the first of what is left, and then one group version at a time
  rw [← List.head?_filter, ← List.head?_filterMap, List.filter_filterMap, List.filterMap_filter]
  congr 1
  refine List.filterMap_congr fun gv hgv => ?_
  cases hload : load gv with
  | error reason => simp [Except.toOption]
  | ok list => simp [Except.toOption, Option.filter_some, named gv hgv list hload]

theorem prefers_of_accounts {load : String → Except String ResourceList} {a : Announcement} {snapshot : Snapshot}
    (h : Accounts load a.groupVersions snapshot)
    (named : ∀ gv ∈ a.groupVersions, ∀ list, load gv = .ok list → list.groupVersion = gv) :
    Prefers load a snapshot.preferred := by
  have first : ∀ g, snapshot.preferred.lists.filter (inGroup g ·.groupVersion) =
      ((a.groupVersions.filter (inGroup g)).findSome? fun gv => (load gv).toOption).toList := by
    intro g
    rw [Snapshot.preferred_of_group, h.lists, find?_loaded named]
  have entry : ∀ g entry, a.Gathers g entry → snapshot.preferred.lists.filter (inGroup g ·.groupVersion) =
      (entry.inOrder.findSome? fun gv => (load gv).toOption).toList := fun g entry gathers => by
    rw [first, gathers.filter_eq]
  refine ⟨first, entry, fun g e gv list gathers hgv hload => ?_⟩
  rw [entry g e gathers, AnnouncedGroup.inOrder, hgv]
  simp [hload, Except.toOption]

/-- Every group version that is announced is accounted for, and of each group the preferred version comes first.
Without the root documents there is nothing to account for. -/
theorem fetch_accounts_for_announced (s : DiscoveryServer) (t : Transport) :
    (∀ core groups, s.load t coreShape "/api" = .ok core → s.load t groupsShape "/apis" = .ok groups →
      (∃ a : Announcement, a.SaidBy core groups) ∧
      ∀ a : Announcement, a.SaidBy core groups →
        ∃ snapshot, s.fetch t = .ok snapshot ∧ Accounts (s.loadList t) a.groupVersions snapshot ∧
          ((∀ gv ∈ a.groupVersions, ∀ list, s.loadList t gv = .ok list → list.groupVersion = gv) →
            Prefers (s.loadList t) a snapshot.preferred)) ∧
    (∀ reason, s.load t coreShape "/api" = .error reason → s.fetch t = .error (.unavailable reason)) ∧
    ∀ core reason, s.load t coreShape "/api" = .ok core → s.load t groupsShape "/apis" = .error reason →
      s.fetch t = .error (.unavailable reason) := by
  refine ⟨fun core groups hcore hgroups => ⟨?_, fun a said => ?_⟩, fun reason hcore => ?_,
    fun core reason hcore hgroups => ?_⟩
  · exact ⟨_, saidBy_ofDocuments (conforms_of_load hcore) (conforms_of_load hgroups)⟩
  · have accounts := accounts_gather (s.loadList t) a.groupVersions
    exact ⟨_, by rw [fetch, announced_eq hcore hgroups said], accounts, prefers_of_accounts accounts⟩
  · simp [fetch, announced, hcore, bind, Except.bind]
  · simp [fetch, announced, hcore, hgroups, bind, Except.bind]

/-- A server with one group, of which the preferred version loads and the other one does not. -/
def scaleTransport : Transport := fun _ request =>
  match request.target with
  | "/api" => some ⟨200, [], "\x7B\"versions\":[\"v1\"]\x7D"⟩
  | "/apis" => some ⟨200, [], "\x7B\"groups\":[\x7B\"versions\":[\x7B\"groupVersion\":\"scale/v1\"\x7D]," ++
      "\"preferredVersion\":\x7B\"groupVersion\":\"scale/v2\"\x7D\x7D]\x7D"⟩
  | "/api/v1" => some ⟨200, [], "\x7B\"groupVersion\":\"v1\"\x7D"⟩
  | "/apis/scale/v2" => some ⟨200, [], "\x7B\"groupVersion\":\"scale/v2\"\x7D"⟩
  | _ => some ⟨503, [], ""⟩

theorem fetch_accounts_for_announced_scale :
    ∃ snapshot, fetch ⟨"http://h", none⟩ scaleTransport = .ok snapshot ∧
      snapshot.lists = [⟨"v1", []⟩, ⟨"scale/v2", []⟩] ∧
      ("scale/v1", "GET /apis/scale/v1: HTTP 503 Service Unavailable") ∈ snapshot.failedGroups ∧
      snapshot.preferred.lists.filter (inGroup "scale" ·.groupVersion) = [⟨"scale/v2", []⟩] := by
  obtain ⟨-, account⟩ := (fetch_accounts_for_announced ⟨"http://h", none⟩ scaleTransport).1 _ _ rfl rfl
  obtain ⟨snapshot, hfetch, accounts, prefers⟩ :=
    account ⟨["v1"], [⟨some "scale/v2", ["scale/v1"]⟩]⟩ ⟨rfl, .cons ⟨fun _ h => ⟨_, rfl, h⟩, nofun, rfl⟩ .nil⟩
  have core : loadList ⟨"http://h", none⟩ scaleTransport "v1" = .ok ⟨"v1", []⟩ := rfl
  have new : loadList ⟨"http://h", none⟩ scaleTransport "scale/v2" = .ok ⟨"scale/v2", []⟩ := rfl
  have old : loadList ⟨"http://h", none⟩ scaleTransport "scale/v1" =
    .error "GET /apis/scale/v1: HTTP 503 Service Unavailable" := rfl
  refine ⟨snapshot, hfetch, accounts.lists.trans rfl, (accounts.failed _ _).2 ⟨by decide, old⟩, ?_⟩
  refine (prefers fun gv hgv list hload => ?_).preferred "scale" _ "scale/v2" _ ⟨by decide, [], _, rfl, by decide⟩
    rfl new
  have hgv : gv = "v1" ∨ gv = "scale/v2" ∨ gv = "scale/v1" := by
    simpa [Announcement.groupVersions, AnnouncedGroup.inOrder] using hgv
  rcases hgv with rfl | rfl | rfl
  · cases core.symm.trans hload; rfl
  · cases new.symm.trans hload; rfl
  · cases old.symm.trans hload

end DiscoveryServer

end Remote

end Periscope
