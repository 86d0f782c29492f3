import Mathlib.Data.List.Basic
import Periscope.Proofs.Discovery.Lookup

/-!
# Items by group

Items that belong to groups may be mixed in many ways that keep the order within each group. What looks at one
group alone, or at the first item of each group, does not tell such lists apart.
-/

namespace Periscope

section

variable {α β : Type} {group : α → String} {xs ys : List α}

/-- Every group has the same items in the same order in both lists. -/
def AlikeByGroup (group : α → String) (xs ys : List α) : Prop :=
  ∀ g, xs.filter (group · == g) = ys.filter (group · == g)

/-- What is turned into nothing may be left out before. -/
theorem flatMap_filter_of_nil {f : α → List β} {p : α → Bool} (hf : ∀ x ∈ xs, p x = false → f x = []) :
    (xs.filter p).flatMap f = xs.flatMap f := by
  induction xs with
  | nil => rfl
  | cons x xs ih =>
    rw [List.filter_cons, List.flatMap_cons, ← ih fun y hy => hf y (List.mem_cons_of_mem _ hy)]
    cases hx : p x with
    | true => rfl
    | false => rw [hf x List.mem_cons_self hx]; rfl

namespace AlikeByGroup

theorem mem_iff (h : AlikeByGroup group xs ys) {x : α} : x ∈ xs ↔ x ∈ ys := by
  have hmem : x ∈ xs.filter (group · == group x) ↔ x ∈ ys.filter (group · == group x) := by rw [h]
  simpa using hmem

theorem perm [DecidableEq α] (h : AlikeByGroup group xs ys) : xs.Perm ys := by
  rw [List.perm_iff_count]
  intro a
  have hcount := congrArg (List.count a) (h (group a))
  rwa [List.count_filter (by simp), List.count_filter (by simp)] at hcount

theorem filter (h : AlikeByGroup group xs ys) (p : α → Bool) :
    AlikeByGroup group (xs.filter p) (ys.filter p) := by
  intro g
  rw [List.filter_comm, h g, List.filter_comm]

theorem filter_eq {p : α → Bool} (g : String) (hp : ∀ x, p x → group x = g)
    (h : AlikeByGroup group xs ys) : xs.filter p = ys.filter p := by
  have narrow (zs : List α) : (zs.filter (group · == g)).filter p = zs.filter p := by
    rw [List.filter_filter]
    congr 1
    funext x
    cases hx : p x with
    | true => simp [hp x hx]
    | false => rfl
  rw [← narrow xs, h g, narrow]

/-- What depends on one group alone is the same. -/
theorem flatMap_eq {f : α → List β} (g : String) (hf : ∀ x ∈ xs, group x ≠ g → f x = [])
    (h : AlikeByGroup group xs ys) : xs.flatMap f = ys.flatMap f := by
  have narrow (zs : List α) (hzs : ∀ x ∈ zs, x ∈ xs) :
      (zs.filter (group · == g)).flatMap f = zs.flatMap f :=
    flatMap_filter_of_nil fun x hx hg => hf x (hzs x hx) (by simpa using hg)
  rw [← narrow xs fun _ hx => hx, h g, narrow ys fun x => h.mem_iff.2]

theorem findSome?_eq {f : α → Option β} (g : String) (hf : ∀ x ∈ xs, group x ≠ g → f x = none)
    (h : AlikeByGroup group xs ys) : xs.findSome? f = ys.findSome? f := by
  have hflat : xs.flatMap (fun x => (f x).toList) = ys.flatMap fun x => (f x).toList :=
    h.flatMap_eq g fun x hx hg => by simp [hf x hx hg]
  rw [← List.head?_filterMap, ← List.head?_filterMap, List.filterMap_eq_flatMap_toList,
    List.filterMap_eq_flatMap_toList, hflat]

/-- Where every item is turned into items of its own group, the results are alike. -/
theorem flatMap {group' : β → String} {f : α → List β} (hf : ∀ x ∈ xs, ∀ y ∈ f x, group' y = group x)
    (h : AlikeByGroup group xs ys) : AlikeByGroup group' (xs.flatMap f) (ys.flatMap f) := by
  intro g
  rw [List.filter_flatMap, List.filter_flatMap]
  refine h.flatMap_eq g fun x hx hg => List.filter_eq_nil_iff.2 fun y hy => ?_
  rw [hf x hx y hy]
  simpa using hg

theorem filterMap {group' : β → String} {f : α → Option β} (hf : ∀ x ∈ xs, ∀ y ∈ f x, group' y = group x)
    (h : AlikeByGroup group xs ys) : AlikeByGroup group' (xs.filterMap f) (ys.filterMap f) := by
  rw [List.filterMap_eq_flatMap_toList, List.filterMap_eq_flatMap_toList]
  exact h.flatMap fun x hx y hy => hf x hx y (by simpa using hy)

end AlikeByGroup

/-! ## The first item of each group -/

open Snapshot

private theorem filter_go (seen : List String) (g : String) :
    (firstPerGroup.go group seen xs).filter (group · == g) =
      if g ∈ seen then [] else (xs.find? (group · == g)).toList := by
  induction xs generalizing seen with
  | nil => simp [firstPerGroup.go]
  | cons x xs ih =>
    rw [firstPerGroup.go]
    by_cases hx : group x = g
    · split
      · next hseen =>
        have hmem : g ∈ seen := by simpa [hx] using hseen
        simp [ih, hmem]
      · next hseen =>
        have hmem : g ∉ seen := by simpa [hx] using hseen
        simp [ih, hx, hmem]
    · split
      · simp [ih, hx]
      · simp [ih, hx, Ne.symm hx]

/-- What is kept of a group is its first item. -/
theorem filter_firstPerGroup (group : α → String) (xs : List α) (g : String) :
    (firstPerGroup group xs).filter (group · == g) = (xs.find? (group · == g)).toList := by
  rw [firstPerGroup, filter_go]
  simp

theorem mem_firstPerGroup_iff {x : α} :
    x ∈ firstPerGroup group xs ↔ xs.find? (group · == group x) = some x := by
  have h : x ∈ (firstPerGroup group xs).filter (group · == group x) ↔
      x ∈ (xs.find? (group · == group x)).toList := by rw [filter_firstPerGroup]
  simpa using h

theorem AlikeByGroup.firstPerGroup (h : AlikeByGroup group xs ys) :
    AlikeByGroup group (firstPerGroup group xs) (firstPerGroup group ys) := by
  intro g
  rw [filter_firstPerGroup, filter_firstPerGroup, ← List.head?_filter, h g, List.head?_filter]

end

/-! ## Preferred versions -/

/-- Whether a text is a group version of a group. -/
def inGroup (g text : String) : Bool := (GroupVersion.ofText? text).any (·.group == g)

namespace Snapshot

theorem find?_parsedLists (s : Snapshot) (g : String) :
    (s.parsedLists.find? fun x => x.1.group == g).map Prod.snd = s.lists.find? (inGroup g ·.groupVersion) := by
  have same : (fun l : ResourceList => (l.parsed?.map fun gv => (gv, l)).any fun x => x.1.group == g) =
      fun l => inGroup g l.groupVersion := by
    funext l
    rw [Option.any_map]
    rfl
  rw [parsedLists, List.find?_filterMap, same]
  cases hfind : s.lists.find? fun l => inGroup g l.groupVersion with
  | none => rfl
  | some l =>
    have hin := List.find?_some hfind
    simp only [inGroup, Option.any_eq_true] at hin
    obtain ⟨gv, hgv, -⟩ := hin
    simp [ResourceList.parsed?, hgv]

/-- The first list of a group is what is preferred of it. -/
theorem preferred_of_group (s : Snapshot) (g : String) :
    s.preferred.lists.filter (inGroup g ·.groupVersion) = (s.lists.find? (inGroup g ·.groupVersion)).toList := by
  have same : ∀ x ∈ firstPerGroup (fun x : GroupVersion × ResourceList => x.1.group) s.parsedLists,
      inGroup g x.2.groupVersion = (x.1.group == g) := by
    intro x hx
    have hparsed := (mem_parsedLists.1 (mem_of_mem_firstPerGroup hx)).2
    rw [ResourceList.parsed?] at hparsed
    rw [inGroup, hparsed, Option.any_some]
  rw [preferred, List.filter_map, ← find?_parsedLists, Option.toList_map, ← filter_firstPerGroup]
  exact congrArg _ (List.filter_congr same)

end Snapshot

end Periscope
