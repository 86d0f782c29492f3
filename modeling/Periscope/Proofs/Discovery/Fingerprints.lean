import Mathlib.Data.List.Basic
import Periscope.Discovery.Document
import Periscope.Proofs.Text.Split
import Periscope.Proofs.Text.Utf8

/-!
# What a fingerprint tells

The bytes of a fingerprint are cut by zeros and ones, and the texts between them may hold such bytes too. Where they
do not (`Legible`), the bytes tell two API surfaces apart; with a zero in the name or the kind of an entry they never
do, as that zero and the one behind the name can change places. Both sides have to be legible, for all that stands in
front of the last two bytes may as well be one group version. Main result: `fingerprint_tells_surface`.
-/

namespace Periscope

/-- What counts for the API surface of an entry: its name, its kind and its scope. -/
def ResourceEntry.surface (e : ResourceEntry) : String × String × Bool := (e.name, e.kind, e.namespaced)

/-- What counts for the API surface of a list. -/
def ResourceList.surface (l : ResourceList) : String × List (String × String × Bool) :=
  (l.groupVersion, l.resources.map ResourceEntry.surface)

/-- The texts of an entry hold no zero, and its name is there and does not begin as the end of a list does. -/
structure ResourceEntry.Legible (e : ResourceEntry) : Prop where
  name : '\x00' ∉ e.name.toList
  kind : '\x00' ∉ e.kind.toList
  named : e.name ≠ ""
  opening : e.name.toList.head? ≠ some '\x01'

/-- The group version holds no zero, and every entry is legible. -/
structure ResourceList.Legible (l : ResourceList) : Prop where
  groupVersion : '\x00' ∉ l.groupVersion.toList
  entries : ∀ e ∈ l.resources, e.Legible

namespace Snapshot

open Text

variable {e e' : ResourceEntry} {es es' : List ResourceEntry} {l l' : ResourceList} {lists lists' : List ResourceList}
  {rest rest' : List UInt8}

/-! ## The surface gives the bytes -/

theorem flatMap_eq_of_map_eq {α β γ : Type} {f : α → β} {g : α → List γ} {xs ys : List α}
    (hg : ∀ x y, f x = f y → g x = g y) (h : xs.map f = ys.map f) : xs.flatMap g = ys.flatMap g := by
  induction xs generalizing ys with
  | nil => rw [List.map_eq_nil_iff.1 h.symm]
  | cons x xs ih =>
    obtain ⟨y, ys, rfl, hy, hys⟩ := List.map_eq_cons_iff.1 h.symm
    rw [List.flatMap_cons, List.flatMap_cons, hg x y hy.symm, ih hys.symm]

theorem entryBytes_of_surface (h : e.surface = e'.surface) : entryBytes e = entryBytes e' := by
  simp only [ResourceEntry.surface, Prod.mk.injEq] at h
  rw [entryBytes, entryBytes, h.1, h.2.1, h.2.2]

theorem listBytes_of_surface (h : l.surface = l'.surface) : listBytes l = listBytes l' := by
  simp only [ResourceList.surface, Prod.mk.injEq] at h
  rw [listBytes, listBytes, h.1, flatMap_eq_of_map_eq (fun _ _ => entryBytes_of_surface) h.2]

theorem fingerprintBytes_of_surface (h : lists.map ResourceList.surface = lists'.map ResourceList.surface) :
    fingerprintBytes lists = fingerprintBytes lists' :=
  flatMap_eq_of_map_eq (fun _ _ => listBytes_of_surface) h

/-! ## The bytes give the surface -/

theorem zero_notMem_bytes {s : String} (h : '\x00' ∉ s.toList) : 0 ∉ s.toUTF8.data.toList := by
  rw [← utf8Bytes_toList]
  exact notMem_utf8Bytes (by decide) h

theorem bytes_injective {s t : String} (h : s.toUTF8.data.toList = t.toUTF8.data.toList) : s = t := by
  rw [← utf8Bytes_toList, ← utf8Bytes_toList] at h
  exact String.toList_injective (utf8Bytes_injective h)

/-- Two stretches without a zero, each with a zero behind it, end at the same place. -/
theorem cut_at_zero {s s' : List UInt8} (hs : 0 ∉ s) (hs' : 0 ∉ s') (h : s ++ 0 :: rest = s' ++ 0 :: rest') :
    s = s' ∧ rest = rest' := by
  obtain ⟨hsame, hrest⟩ := cut_inj hs hs' (by simp) (by simp) h
  exact ⟨hsame, (List.cons.inj hrest).2⟩

theorem entryBytes_append :
    entryBytes e ++ rest = e.name.toUTF8.data.toList ++ 0 ::
      (e.kind.toUTF8.data.toList ++ (if e.namespaced then 1 else 0) :: 0 :: rest) := by
  simp [entryBytes]

/-- The kind and the scope are told by the bytes up to a rest that begins with no zero: a scope of zero ends the kind,
a scope of one is the last byte before the zero. -/
theorem kind_scope_inj {kind kind' : List UInt8} {scope scope' : Bool} (hkind : 0 ∉ kind) (hkind' : 0 ∉ kind')
    (hrest : rest.head? ≠ some 0) (hrest' : rest'.head? ≠ some 0)
    (h : kind ++ (if scope then 1 else 0) :: 0 :: rest = kind' ++ (if scope' then 1 else 0) :: 0 :: rest') :
    kind = kind' ∧ scope = scope' ∧ rest = rest' := by
  have joined : ∀ {k : List UInt8}, 0 ∉ k → 0 ∉ k ++ [1] := by simp
  cases scope <;> cases scope'
  · obtain ⟨hsame, h⟩ := cut_at_zero hkind hkind' h
    exact ⟨hsame, rfl, (List.cons.inj h).2⟩
  · rw [List.append_cons kind'] at h
    obtain ⟨-, rfl⟩ := cut_at_zero hkind (joined hkind') h
    exact absurd rfl hrest'
  · rw [List.append_cons kind] at h
    obtain ⟨-, rfl⟩ := cut_at_zero (joined hkind) hkind' h
    exact absurd rfl hrest
  · rw [List.append_cons kind, List.append_cons kind'] at h
    obtain ⟨hsame, hrest⟩ := cut_at_zero (joined hkind) (joined hkind') h
    exact ⟨List.append_cancel_right hsame, rfl, hrest⟩

theorem entryBytes_inj (he : e.Legible) (he' : e'.Legible) (hrest : rest.head? ≠ some 0)
    (hrest' : rest'.head? ≠ some 0) (h : entryBytes e ++ rest = entryBytes e' ++ rest') :
    e.surface = e'.surface ∧ rest = rest' := by
  rw [entryBytes_append, entryBytes_append] at h
  obtain ⟨hname, h⟩ := cut_at_zero (zero_notMem_bytes he.name) (zero_notMem_bytes he'.name) h
  obtain ⟨hkind, hscope, hrest⟩ :=
    kind_scope_inj (zero_notMem_bytes he.kind) (zero_notMem_bytes he'.kind) hrest hrest' h
  refine ⟨?_, hrest⟩
  rw [ResourceEntry.surface, ResourceEntry.surface, bytes_injective hname, bytes_injective hkind, hscope]

/-- An entry begins neither as the end of a list does nor with a zero. -/
theorem head?_entryBytes {b : UInt8} (he : e.Legible) (hb : b = 0 ∨ b = 1) : (entryBytes e ++ rest).head? ≠ some b := by
  have hname : utf8Bytes e.name.toList ≠ [] := fun h =>
    he.named (String.toList_eq_nil_iff.1 (utf8Bytes_injective h))
  rw [entryBytes_append, ← utf8Bytes_toList, List.head?_append_of_ne_nil _ hname]
  intro h
  rcases hb with rfl | rfl
  · exact he.name (List.mem_of_mem_head? (head?_of_utf8Bytes (by decide) h))
  · exact he.opening (head?_of_utf8Bytes (by decide) h)

theorem head?_entries (hes : ∀ e ∈ es, e.Legible) : (es.flatMap entryBytes ++ 1 :: rest).head? ≠ some 0 := by
  cases es with
  | nil => simp
  | cons e es =>
    rw [List.flatMap_cons, List.append_assoc]
    exact head?_entryBytes (hes _ List.mem_cons_self) (.inl rfl)

theorem entries_inj (hes : ∀ e ∈ es, e.Legible) (hes' : ∀ e ∈ es', e.Legible)
    (h : es.flatMap entryBytes ++ 1 :: rest = es'.flatMap entryBytes ++ 1 :: rest') :
    es.map ResourceEntry.surface = es'.map ResourceEntry.surface ∧ rest = rest' := by
  induction es generalizing es' with
  | nil =>
    cases es' with
    | nil => exact ⟨rfl, (List.cons.inj h).2⟩
    | cons e' es' =>
      -- the one behind the entries stands against the first byte of a name
      rw [List.flatMap_cons, List.append_assoc] at h
      exact absurd (congrArg List.head? h).symm (head?_entryBytes (hes' _ List.mem_cons_self) (.inr rfl))
  | cons e es ih =>
    obtain ⟨he, hes⟩ := List.forall_mem_cons.1 hes
    cases es' with
    | nil =>
      rw [List.flatMap_cons, List.append_assoc] at h
      exact absurd (congrArg List.head? h) (head?_entryBytes he (.inr rfl))
    | cons e' es' =>
      obtain ⟨he', hes'⟩ := List.forall_mem_cons.1 hes'
      rw [List.flatMap_cons, List.flatMap_cons, List.append_assoc, List.append_assoc] at h
      obtain ⟨hsurface, h⟩ := entryBytes_inj he he' (head?_entries hes) (head?_entries hes') h
      obtain ⟨hsurfaces, hrest⟩ := ih hes hes' h
      exact ⟨by rw [List.map_cons, List.map_cons, hsurface, hsurfaces], hrest⟩

theorem listBytes_append :
    listBytes l ++ rest =
      l.groupVersion.toUTF8.data.toList ++ 0 :: (l.resources.flatMap entryBytes ++ 1 :: rest) := by
  simp [listBytes]

theorem listBytes_inj (hl : l.Legible) (hl' : l'.Legible) (h : listBytes l ++ rest = listBytes l' ++ rest') :
    l.surface = l'.surface ∧ rest = rest' := by
  rw [listBytes_append, listBytes_append] at h
  obtain ⟨hgroupVersion, h⟩ := cut_at_zero (zero_notMem_bytes hl.groupVersion) (zero_notMem_bytes hl'.groupVersion) h
  obtain ⟨hentries, hrest⟩ := entries_inj hl.entries hl'.entries h
  exact ⟨by rw [ResourceList.surface, ResourceList.surface, bytes_injective hgroupVersion, hentries], hrest⟩

theorem surface_of_fingerprintBytes (hlists : ∀ l ∈ lists, l.Legible) (hlists' : ∀ l ∈ lists', l.Legible)
    (h : fingerprintBytes lists = fingerprintBytes lists') :
    lists.map ResourceList.surface = lists'.map ResourceList.surface := by
  simp only [fingerprintBytes] at h
  induction lists generalizing lists' with
  | nil =>
    cases lists' with
    | nil => rfl
    | cons l' lists' => simp [listBytes] at h
  | cons l lists ih =>
    cases lists' with
    | nil => simp [listBytes] at h
    | cons l' lists' =>
      obtain ⟨hl, hlists⟩ := List.forall_mem_cons.1 hlists
      obtain ⟨hl', hlists'⟩ := List.forall_mem_cons.1 hlists'
      rw [List.flatMap_cons, List.flatMap_cons] at h
      obtain ⟨hsurface, h⟩ := listBytes_inj hl hl' h
      rw [List.map_cons, List.map_cons, hsurface, ih hlists hlists' h]

/-! ## Zeros in a text -/

/-- The zero behind the name changes its place with a zero in the name, or with one in the kind. -/
theorem entryBytes_moved_zero (e e' : ResourceEntry) {moved : List Char}
    (hname : e.name.toList = e'.name.toList ++ '\x00' :: moved)
    (hkind : e'.kind.toList = moved ++ '\x00' :: e.kind.toList) (hscope : e.namespaced = e'.namespaced) :
    entryBytes e = entryBytes e' ∧ e.surface ≠ e'.surface := by
  constructor
  · have hzero : String.utf8EncodeChar '\x00' = [0] := by decide
    simp only [entryBytes, ← utf8Bytes_toList, hname, hkind, hscope, utf8Bytes_append]
    simp [utf8Bytes, hzero]
  · intro same
    rw [show e.name = e'.name from congrArg Prod.fst same] at hname
    simp at hname

theorem exists_confused_entry (h : '\x00' ∈ e.name.toList ∨ '\x00' ∈ e.kind.toList) :
    ∃ e' : ResourceEntry, entryBytes e' = entryBytes e ∧ e'.surface ≠ e.surface := by
  rcases h with hname | hkind
  · obtain ⟨front, moved, hsplit⟩ := List.append_of_mem hname
    obtain ⟨hbytes, hsurface⟩ := entryBytes_moved_zero e
      { e with name := String.ofList front, kind := String.ofList (moved ++ '\x00' :: e.kind.toList) }
      (by simpa using hsplit) (by simp) rfl
    exact ⟨_, hbytes.symm, hsurface.symm⟩
  · obtain ⟨moved, behind, hsplit⟩ := List.append_of_mem hkind
    exact ⟨_, entryBytes_moved_zero
      { e with name := String.ofList (e.name.toList ++ '\x00' :: moved), kind := String.ofList behind } e
      (String.toList_ofList ..) (by simpa using hsplit) rfl⟩

/-! ## Everything in one group version -/

/-- The bytes are those of a text. -/
def IsText (bytes : List UInt8) : Prop := ∃ s, utf8Bytes s = bytes

theorem IsText.append {s t : List UInt8} (hs : IsText s) (ht : IsText t) : IsText (s ++ t) := by
  obtain ⟨s, rfl⟩ := hs
  obtain ⟨t, rfl⟩ := ht
  exact ⟨s ++ t, utf8Bytes_append s t⟩

theorem isText_bytes (s : String) : IsText s.toUTF8.data.toList := ⟨s.toList, utf8Bytes_toList s⟩

theorem isText_zero : IsText [0] := ⟨['\x00'], by decide⟩

theorem isText_one : IsText [1] := ⟨['\x01'], by decide⟩

theorem isText_scope (scope : Bool) : IsText [if scope then 1 else 0] := by
  cases scope
  · exact isText_zero
  · exact isText_one

theorem isText_flatMap {α : Type} {f : α → List UInt8} (h : ∀ x, IsText (f x)) (xs : List α) :
    IsText (xs.flatMap f) := by
  induction xs with
  | nil => exact ⟨[], rfl⟩
  | cons x xs ih => exact (h x).append ih

/-- The bytes of an entry without the zero behind them. -/
theorem exists_entryBytes (e : ResourceEntry) : ∃ s, IsText s ∧ entryBytes e = s ++ [0] := by
  refine ⟨_, (((isText_bytes e.name).append isText_zero).append (isText_bytes e.kind)).append
    (isText_scope e.namespaced), ?_⟩
  simp [entryBytes]

theorem isText_entryBytes (e : ResourceEntry) : IsText (entryBytes e) := by
  obtain ⟨s, hs, h⟩ := exists_entryBytes e
  exact h ▸ hs.append isText_zero

/-- The bytes of a list without the zero and the one behind them. -/
theorem exists_listBytes (l : ResourceList) : ∃ s, IsText s ∧ listBytes l = s ++ [0, 1] := by
  rcases List.eq_nil_or_concat l.resources with hnone | ⟨es, e, hsome⟩
  · exact ⟨_, isText_bytes l.groupVersion, by simp [listBytes, hnone]⟩
  · obtain ⟨s, hs, h⟩ := exists_entryBytes e
    refine ⟨_, (((isText_bytes l.groupVersion).append isText_zero).append
      (isText_flatMap isText_entryBytes es)).append hs, ?_⟩
    simp [listBytes, hsome, h]

theorem isText_listBytes (l : ResourceList) : IsText (listBytes l) := by
  obtain ⟨s, hs, h⟩ := exists_listBytes l
  exact h ▸ hs.append (isText_zero.append isText_one)

theorem exists_packed (h : lists ≠ []) :
    ∃ groupVersion, fingerprintBytes [⟨groupVersion, []⟩] = fingerprintBytes lists := by
  obtain ⟨front, l, rfl⟩ := (List.eq_nil_or_concat lists).resolve_left h
  obtain ⟨s, hs, hl⟩ := exists_listBytes l
  obtain ⟨text, packed⟩ := (isText_flatMap isText_listBytes front).append hs
  refine ⟨String.ofList text, ?_⟩
  have lone (gv : String) : fingerprintBytes [⟨gv, []⟩] = gv.toUTF8.data.toList ++ [0, 1] := by
    simp [fingerprintBytes, listBytes]
  rw [lone, ← utf8Bytes_toList, String.toList_ofList, packed, fingerprintBytes, List.concat_eq_append,
    List.flatMap_append, List.flatMap_singleton, hl, List.append_assoc]

/-! ## The other clauses -/

/-- A group version with a zero, an empty name and a name that opens with a one can stand for texts that are legible:
for another list, for a scope behind a kind, and for the end of a list. -/
theorem fingerprintBytes_of_illegible (e : ResourceEntry) (a b c d : String) :
    fingerprintBytes [⟨a ++ "\x00\x01" ++ b, []⟩] = fingerprintBytes [⟨a, []⟩, ⟨b, []⟩] ∧
    fingerprintBytes
        [⟨a, [{ e with name := b, kind := c, namespaced := true },
            { e with name := "", kind := d, namespaced := true }]⟩,
          ⟨"", []⟩] =
      fingerprintBytes
        [⟨a, [{ e with name := b, kind := c ++ "\x01", namespaced := false },
          { e with name := d ++ "\x01", kind := "", namespaced := true }]⟩] ∧
    fingerprintBytes
        [⟨a, [{ e with name := "\x01" ++ b, kind := c, namespaced := true },
          { e with name := d ++ "\x01", kind := "", namespaced := true }]⟩] =
      fingerprintBytes
        [⟨a, []⟩, ⟨b, [{ e with name := c ++ "\x01", kind := d, namespaced := true }]⟩, ⟨"", []⟩] := by
  have mark : "\x00\x01".toByteArray.data.toList = [0, 1] := by decide
  have one : "\x01".toByteArray.data.toList = [1] := by decide
  refine ⟨?_, ?_, ?_⟩ <;> simp [fingerprintBytes, listBytes, entryBytes, mark, one]

/-! ## Snapshots -/

/-- What counts for the API surface at one time. -/
def surface (s : Snapshot) : List (String × List (String × String × Bool)) := s.lists.map ResourceList.surface

/-- Every list is legible. -/
def Legible (s : Snapshot) : Prop := ∀ l ∈ s.lists, l.Legible

theorem exists_confused {s : Snapshot} (hl : l ∈ s.lists) (he : e ∈ l.resources)
    (h : '\x00' ∈ e.name.toList ∨ '\x00' ∈ e.kind.toList) :
    ∃ t : Snapshot, fingerprintBytes t.lists = fingerprintBytes s.lists ∧ t.surface ≠ s.surface := by
  obtain ⟨e', hbytes, hsurface⟩ := exists_confused_entry h
  obtain ⟨lists, failedGroups⟩ := s
  obtain ⟨before, behind, rfl⟩ := List.append_of_mem hl
  obtain ⟨groupVersion, resources⟩ := l
  obtain ⟨es, es', rfl⟩ := List.append_of_mem he
  refine ⟨⟨before ++ ⟨groupVersion, es ++ e' :: es'⟩ :: behind, failedGroups⟩, ?_, ?_⟩
  · simp [fingerprintBytes, listBytes, hbytes]
  · simpa [surface, ResourceList.surface] using hsurface

/-- A snapshot with an entry, or with two lists, is confused with a lone list that holds it in its group version. -/
theorem exists_packed_surface {s : Snapshot} (h : 2 ≤ s.lists.length ∨ ∃ l ∈ s.lists, l.resources ≠ []) :
    ∃ t : Snapshot, fingerprintBytes t.lists = fingerprintBytes s.lists ∧ t.surface ≠ s.surface := by
  have some : s.lists ≠ [] := by
    rintro none
    simp [none] at h
  obtain ⟨groupVersion, packed⟩ := exists_packed some
  refine ⟨⟨[⟨groupVersion, []⟩], []⟩, packed, fun same => ?_⟩
  obtain ⟨l, lone, hl⟩ := List.map_eq_singleton_iff.1 (Eq.symm same)
  rcases h with two | ⟨l', hl', entries⟩
  · simp [lone] at two
  · obtain rfl : l' = l := by simpa [lone] using hl'
    exact entries (List.map_eq_nil_iff.1 (congrArg Prod.snd hl))

/-- One surface gives the same bytes. Of legible snapshots the bytes tell the surface, and so does the fingerprint if
the hash keeps the two apart. Of a snapshot with a zero in the name or the kind of an entry they do not, and among all
snapshots they do not even of one with an entry or with two lists. -/
theorem fingerprint_tells_surface (s : Snapshot) :
    (∀ t : Snapshot, s.surface = t.surface → fingerprintBytes s.lists = fingerprintBytes t.lists) ∧
    (∀ t : Snapshot, s.Legible → t.Legible →
      fingerprintBytes s.lists = fingerprintBytes t.lists → s.surface = t.surface) ∧
    (∀ t : Snapshot, s.Legible → t.Legible →
      (Blake3.hexHash (fingerprintBytes s.lists) = Blake3.hexHash (fingerprintBytes t.lists) →
        fingerprintBytes s.lists = fingerprintBytes t.lists) →
      (s.fingerprint = t.fingerprint ↔ s.surface = t.surface)) ∧
    (∀ l ∈ s.lists, ∀ e ∈ l.resources, '\x00' ∈ e.name.toList ∨ '\x00' ∈ e.kind.toList →
      ∃ t : Snapshot, fingerprintBytes t.lists = fingerprintBytes s.lists ∧ t.surface ≠ s.surface) ∧
    (2 ≤ s.lists.length ∨ (∃ l ∈ s.lists, l.resources ≠ []) →
      ∃ t : Snapshot, fingerprintBytes t.lists = fingerprintBytes s.lists ∧ t.surface ≠ s.surface) := by
  refine ⟨fun t => fingerprintBytes_of_surface, fun t hs ht => surface_of_fingerprintBytes hs ht,
    fun t hs ht hash => ?_, fun l hl e he => exists_confused hl he, exists_packed_surface⟩
  constructor
  · exact fun h => surface_of_fingerprintBytes hs ht (hash h)
  · intro h
    rw [fingerprint, fingerprint, fingerprintBytes_of_surface h]

theorem fingerprint_tells_surface_scope :
    fingerprintBytes [⟨"v1", [⟨"nodes", "node", true, "Node", [], []⟩]⟩] ≠
      fingerprintBytes [⟨"v1", [⟨"nodes", "node", false, "Node", ["no"], []⟩]⟩] := by
  have legible : ∀ namespaced shortNames,
      (⟨[⟨"v1", [⟨"nodes", "node", namespaced, "Node", shortNames, []⟩]⟩], []⟩ : Snapshot).Legible := by
    intro namespaced shortNames l hl
    obtain rfl := List.mem_singleton.1 hl
    refine ⟨show '\x00' ∉ "v1".toList by decide, fun e he => ?_⟩
    obtain rfl := List.mem_singleton.1 he
    exact ⟨show '\x00' ∉ "nodes".toList by decide, show '\x00' ∉ "Node".toList by decide,
      show "nodes" ≠ "" by decide, show "nodes".toList.head? ≠ some '\x01' by decide⟩
  intro h
  have hsurface := (fingerprint_tells_surface ⟨_, []⟩).2.1 ⟨_, []⟩ (legible true []) (legible false ["no"]) h
  exact absurd hsurface (by decide)

theorem fingerprint_confuses_surfaces :
    ∃ s t,
      Snapshot.ofText
        "[\x7B\"groupVersion\":\"v1\",\"resources\":[\x7B\"name\":\"a\\u0000b\",\"kind\":\"c\"\x7D]\x7D]" = .ok s ∧
      Snapshot.ofText
        "[\x7B\"groupVersion\":\"v1\",\"resources\":[\x7B\"name\":\"a\",\"kind\":\"b\\u0000c\"\x7D]\x7D]" = .ok t ∧
      fingerprintBytes s.lists = fingerprintBytes t.lists ∧ s.fingerprint = t.fingerprint ∧ s.surface ≠ t.surface := by
  have bytes :
      fingerprintBytes [⟨"v1", [⟨"a\x00b", "", false, "c", [], []⟩]⟩] =
        fingerprintBytes [⟨"v1", [⟨"a", "", false, "b\x00c", [], []⟩]⟩] := by
    decide +kernel
  exact ⟨⟨_, []⟩, ⟨_, []⟩, by decide +kernel, by decide +kernel, bytes, congrArg Blake3.hexHash bytes, by decide⟩

end Snapshot

end Periscope
