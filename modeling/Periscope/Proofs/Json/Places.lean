import Mathlib.Data.List.Nodup
import Periscope.Json.Basic

/-!
# Places in a value

A path of object keys and array indices leads to at most one place in a value. In a value whose objects have no key
twice, the places are the ends of its paths (`mem_places_iff`), each listed once (`nodup_places`).
-/

namespace Periscope.Json

/-- A step into an object or an array. -/
inductive Step where
  | key (key : String)
  | index (i : Nat)
  deriving DecidableEq

variable {v w : Json} {step : Step} {path : List Step}

/-! ## Paths -/

/-- The value one step into a value. -/
def child? : Json → Step → Option Json
  | .obj members, .key key => members.lookup key
  | .arr items, .index i => items[i]?
  | _, _ => none

/-- The value at the end of a path. -/
def at? (v : Json) : List Step → Option Json
  | [] => some v
  | step :: path => (v.child? step).bind (·.at? path)

@[simp] theorem at?_nil : v.at? [] = some v := rfl

@[simp] theorem at?_cons : v.at? (step :: path) = (v.child? step).bind (·.at? path) := rfl

theorem at?_append (front back : List Step) : v.at? (front ++ back) = (v.at? front).bind (·.at? back) := by
  induction front generalizing v with
  | nil => rfl
  | cons step front ih =>
    rw [List.cons_append, at?_cons, at?_cons, Option.bind_assoc]
    exact congrArg _ (funext fun _ => ih)

/-! ## Places -/

mutual

/-- The places in a value, each with its path. -/
def places : Json → List (List Step × Json)
  | .arr items => ([], .arr items) :: itemPlaces 0 items
  | .obj members => ([], .obj members) :: memberPlaces members
  | v => [([], v)]

/-- The places in the items from a number on. -/
def itemPlaces (i : Nat) : List Json → List (List Step × Json)
  | [] => []
  | v :: rest => v.places.map (fun place => (.index i :: place.1, place.2)) ++ itemPlaces (i + 1) rest

/-- The places in the members. -/
def memberPlaces : List (String × Json) → List (List Step × Json)
  | [] => []
  | (key, v) :: rest => v.places.map (fun place => (.key key :: place.1, place.2)) ++ memberPlaces rest

end

mutual

/-- No object in the value has a key twice. -/
def KeysUnique : Json → Prop
  | .arr items => itemKeysUnique items
  | .obj members => (members.map Prod.fst).Nodup ∧ memberKeysUnique members
  | _ => True

def itemKeysUnique : List Json → Prop
  | [] => True
  | v :: rest => v.KeysUnique ∧ itemKeysUnique rest

def memberKeysUnique : List (String × Json) → Prop
  | [] => True
  | (_, v) :: rest => v.KeysUnique ∧ memberKeysUnique rest

end

theorem itemKeysUnique_iff {items : List Json} : itemKeysUnique items ↔ ∀ v ∈ items, v.KeysUnique := by
  induction items with
  | nil => simp [itemKeysUnique]
  | cons v rest ih => simp [itemKeysUnique, ih]

theorem memberKeysUnique_iff {members : List (String × Json)} :
    memberKeysUnique members ↔ ∀ member ∈ members, member.2.KeysUnique := by
  induction members with
  | nil => simp [memberKeysUnique]
  | cons member rest ih => simp [memberKeysUnique, ih]

theorem KeysUnique.child (h : v.KeysUnique) (hchild : v.child? step = some w) : w.KeysUnique := by
  cases v with
  | arr items =>
    cases step with
    | index i => exact itemKeysUnique_iff.1 h w (List.mem_of_getElem? hchild)
    | key key => cases hchild
  | obj members =>
    cases step with
    | index i => cases hchild
    | key key =>
      obtain ⟨l₁, l₂, rfl, -⟩ := List.lookup_eq_some_iff.1 hchild
      exact memberKeysUnique_iff.1 h.2 (key, w) (by simp)
  | _ => cases hchild

theorem mem_itemPlaces {items : List Json} {i : Nat} :
    (path, w) ∈ itemPlaces i items ↔
      ∃ j v back, items[j]? = some v ∧ path = .index (i + j) :: back ∧ (back, w) ∈ v.places := by
  induction items generalizing i with
  | nil => simp [itemPlaces]
  | cons v rest ih =>
    rw [itemPlaces, List.mem_append, ih]
    constructor
    · rintro (h | ⟨j, x, back, hx, rfl, hback⟩)
      · obtain ⟨⟨back, x⟩, hback, heq⟩ := List.mem_map.1 h
        cases heq
        exact ⟨0, v, back, rfl, rfl, hback⟩
      · exact ⟨j + 1, x, back, hx, by rw [Nat.add_right_comm, Nat.add_assoc], hback⟩
    · rintro ⟨_ | j, x, back, hx, rfl, hback⟩
      · cases hx
        exact .inl (List.mem_map.2 ⟨(back, w), hback, rfl⟩)
      · exact .inr ⟨j, x, back, hx, by rw [Nat.add_right_comm, Nat.add_assoc], hback⟩

theorem mem_memberPlaces {members : List (String × Json)} :
    (path, w) ∈ memberPlaces members ↔
      ∃ key v back, (key, v) ∈ members ∧ path = .key key :: back ∧ (back, w) ∈ v.places := by
  induction members with
  | nil => simp [memberPlaces]
  | cons member rest ih =>
    obtain ⟨key, v⟩ := member
    rw [memberPlaces, List.mem_append, ih]
    constructor
    · rintro (h | ⟨key', x, back, hx, rfl, hback⟩)
      · obtain ⟨⟨back, x⟩, hback, heq⟩ := List.mem_map.1 h
        cases heq
        exact ⟨key, v, back, List.mem_cons_self, rfl, hback⟩
      · exact ⟨key', x, back, List.mem_cons_of_mem _ hx, rfl, hback⟩
    · rintro ⟨key', x, back, hx, rfl, hback⟩
      rcases List.mem_cons.1 hx with heq | hx
      · cases heq
        exact .inl (List.mem_map.2 ⟨(back, w), hback, rfl⟩)
      · exact .inr ⟨key', x, back, hx, rfl, hback⟩

theorem lookup_eq_some_iff_mem {members : List (String × Json)} (h : (members.map Prod.fst).Nodup) {key : String} :
    members.lookup key = some v ↔ (key, v) ∈ members := by
  constructor
  · intro hlookup
    obtain ⟨l₁, l₂, rfl, -⟩ := List.lookup_eq_some_iff.1 hlookup
    simp
  · intro hmem
    obtain ⟨l₁, l₂, rfl⟩ := List.append_of_mem hmem
    refine List.lookup_eq_some_iff.2 ⟨l₁, l₂, rfl, fun other hother => ?_⟩
    rw [List.map_append, List.map_cons, List.nodup_append] at h
    have hne : other.1 ≠ key := h.2.2 _ (List.mem_map_of_mem hother) _ List.mem_cons_self
    simpa using hne.symm

/-- The first place is the value itself, and the others are inside of it. -/
theorem exists_places_eq (v : Json) : ∃ inner, v.places = ([], v) :: inner ∧ ∀ place ∈ inner, place.1 ≠ [] := by
  cases v with
  | arr items =>
    refine ⟨itemPlaces 0 items, by rw [places], fun place hplace hnil => ?_⟩
    obtain ⟨_, _, _, _, hpath, _⟩ := mem_itemPlaces.1 hplace
    cases hpath.symm.trans hnil
  | obj members =>
    refine ⟨memberPlaces members, by rw [places], fun place hplace hnil => ?_⟩
    obtain ⟨_, _, _, _, hpath, _⟩ := mem_memberPlaces.1 hplace
    cases hpath.symm.trans hnil
  | _ => exact ⟨[], by rw [places] <;> simp, by simp⟩

theorem nil_mem_places : ([], w) ∈ v.places ↔ w = v := by
  obtain ⟨inner, heq, hinner⟩ := exists_places_eq v
  have hnot : ([], w) ∉ inner := fun hw => hinner _ hw rfl
  simp [heq, hnot]

theorem cons_mem_places (h : v.KeysUnique) :
    (step :: path, w) ∈ v.places ↔ ∃ x, v.child? step = some x ∧ (path, w) ∈ x.places := by
  cases v with
  | arr items =>
    cases step with
    | index i => simp [places, mem_itemPlaces, child?]
    | key key => simp [places, mem_itemPlaces, child?]
  | obj members =>
    cases step with
    | index i => simp [places, mem_memberPlaces, child?]
    | key key => simp [places, mem_memberPlaces, child?, lookup_eq_some_iff_mem h.1]
  | _ => simp [places, child?]

/-- The places of a value are the ends of its paths. -/
theorem mem_places_iff (h : v.KeysUnique) : (path, w) ∈ v.places ↔ v.at? path = some w := by
  induction path generalizing v with
  | nil => rw [nil_mem_places, at?_nil, Option.some.injEq, eq_comm]
  | cons step path ih =>
    rw [cons_mem_places h, at?_cons, Option.bind_eq_some_iff]
    exact exists_congr fun x => and_congr_right fun hx => ih (h.child hx)

/-! ## Every place once -/

theorem map_fst_cons (step : Step) (places : List (List Step × Json)) :
    (places.map fun place => (step :: place.1, place.2)).map Prod.fst = (places.map Prod.fst).map (step :: ·) := by
  rw [List.map_map, List.map_map]
  rfl

theorem path_of_itemPlaces {items : List Json} {i : Nat} (h : path ∈ (itemPlaces i items).map Prod.fst) :
    ∃ j back, path = .index (i + j) :: back := by
  obtain ⟨⟨_, w⟩, hw, rfl⟩ := List.mem_map.1 h
  obtain ⟨j, _, back, -, hpath, -⟩ := mem_itemPlaces.1 hw
  exact ⟨j, back, hpath⟩

theorem path_of_memberPlaces {members : List (String × Json)} (h : path ∈ (memberPlaces members).map Prod.fst) :
    ∃ key ∈ members.map Prod.fst, ∃ back, path = .key key :: back := by
  obtain ⟨⟨_, w⟩, hw, rfl⟩ := List.mem_map.1 h
  obtain ⟨key, v, back, hmem, hpath, -⟩ := mem_memberPlaces.1 hw
  exact ⟨key, List.mem_map_of_mem hmem, back, hpath⟩

mutual

/-- Every place is listed once. -/
theorem nodup_places : (v : Json) → v.KeysUnique → (v.places.map Prod.fst).Nodup
  | .null, _ => by simp [places]
  | .bool _, _ => by simp [places]
  | .num _, _ => by simp [places]
  | .str _, _ => by simp [places]
  | .arr items, h => by
      rw [places, List.map_cons, List.nodup_cons]
      refine ⟨fun hnil => ?_, nodup_itemPlaces 0 items h⟩
      obtain ⟨_, _, hpath⟩ := path_of_itemPlaces hnil
      cases hpath
  | .obj members, h => by
      rw [places, List.map_cons, List.nodup_cons]
      refine ⟨fun hnil => ?_, nodup_memberPlaces members h.1 h.2⟩
      obtain ⟨_, -, _, hpath⟩ := path_of_memberPlaces hnil
      cases hpath

theorem nodup_itemPlaces (i : Nat) :
    (items : List Json) → itemKeysUnique items → ((itemPlaces i items).map Prod.fst).Nodup
  | [], _ => by simp [itemPlaces]
  | v :: rest, h => by
      have first : ((v.places.map Prod.fst).map (Step.index i :: ·)).Nodup :=
        (nodup_places v h.1).map List.cons_injective
      rw [itemPlaces, List.map_append, map_fst_cons, List.nodup_append]
      refine ⟨first, nodup_itemPlaces (i + 1) rest h.2, ?_⟩
      rintro _ ha path hb rfl
      obtain ⟨back, -, rfl⟩ := List.mem_map.1 ha
      obtain ⟨j, _, hpath⟩ := path_of_itemPlaces hb
      rw [List.cons.injEq, Step.index.injEq] at hpath
      omega

theorem nodup_memberPlaces : (members : List (String × Json)) → (members.map Prod.fst).Nodup →
    memberKeysUnique members → ((memberPlaces members).map Prod.fst).Nodup
  | [], _, _ => by simp [memberPlaces]
  | (key, v) :: rest, hkeys, h => by
      have first : ((v.places.map Prod.fst).map (Step.key key :: ·)).Nodup :=
        (nodup_places v h.1).map List.cons_injective
      rw [List.map_cons, List.nodup_cons] at hkeys
      rw [memberPlaces, List.map_append, map_fst_cons, List.nodup_append]
      refine ⟨first, nodup_memberPlaces rest hkeys.2 h.2, ?_⟩
      rintro _ ha path hb rfl
      obtain ⟨back, -, rfl⟩ := List.mem_map.1 ha
      obtain ⟨key', hkey', _, hpath⟩ := path_of_memberPlaces hb
      rw [List.cons.injEq, Step.key.injEq] at hpath
      exact hkeys.1 (hpath.1 ▸ hkey')

end

end Periscope.Json
