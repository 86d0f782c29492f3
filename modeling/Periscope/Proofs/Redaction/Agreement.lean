import Mathlib.Data.List.Forall2
import Periscope.Redaction.Redactor

/-!
# Values that agree where they are shown

Two values agree if they differ only in what stands under hidden keys, at any depth. A redactor does not tell
values apart that agree outside of the keys its rules match: `redactValue_eq_of_agree`.
-/

namespace Periscope

namespace Json

variable {hidden : String → Prop} {items items' : List Json} {members members' : List (String × Json)}

mutual

/-- The values are alike but for what stands under hidden keys. -/
inductive Agree (hidden : String → Prop) : Json → Json → Prop
  | same (v : Json) : Agree hidden v v
  | arr {items items' : List Json} : AgreeItems hidden items items' →
      Agree hidden (.arr items) (.arr items')
  | obj {members members' : List (String × Json)} : AgreeMembers hidden members members' →
      Agree hidden (.obj members) (.obj members')

/-- The items are alike one by one. -/
inductive AgreeItems (hidden : String → Prop) : List Json → List Json → Prop
  | nil : AgreeItems hidden [] []
  | cons {v v' : Json} {rest rest' : List Json} : Agree hidden v v' → AgreeItems hidden rest rest' →
      AgreeItems hidden (v :: rest) (v' :: rest')

/-- The members have the same keys, and those whose keys are shown are alike. -/
inductive AgreeMembers (hidden : String → Prop) : List (String × Json) → List (String × Json) → Prop
  | nil : AgreeMembers hidden [] []
  | hide {key : String} {v v' : Json} {rest rest' : List (String × Json)} : hidden key →
      AgreeMembers hidden rest rest' → AgreeMembers hidden ((key, v) :: rest) ((key, v') :: rest')
  | cons {key : String} {v v' : Json} {rest rest' : List (String × Json)} : Agree hidden v v' →
      AgreeMembers hidden rest rest' → AgreeMembers hidden ((key, v) :: rest) ((key, v') :: rest')

end

/-! ## Lists that are related one by one -/

/-- The members have the same keys, and the values of each key are related. -/
def Memberwise (R : String → Json → Json → Prop) (members members' : List (String × Json)) : Prop :=
  List.Forall₂ (fun m m' => m.1 = m'.1 ∧ R m.1 m.2 m'.2) members members'

theorem agreeItems_iff : AgreeItems hidden items items' ↔ List.Forall₂ (Agree hidden) items items' := by
  constructor
  · intro h
    induction items generalizing items' with
    | nil => cases h; exact .nil
    | cons v rest ih =>
      cases h with
      | cons hv hrest => exact .cons hv (ih hrest)
  · intro h
    induction h with
    | nil => exact .nil
    | cons hv _ ih => exact .cons hv ih

theorem agreeMembers_iff : AgreeMembers hidden members members' ↔
    Memberwise (fun key v v' => hidden key ∨ Agree hidden v v') members members' := by
  constructor
  · intro h
    induction members generalizing members' with
    | nil => cases h; exact .nil
    | cons m rest ih =>
      cases h with
      | hide hkey hrest => exact .cons ⟨rfl, .inl hkey⟩ (ih hrest)
      | cons hv hrest => exact .cons ⟨rfl, .inr hv⟩ (ih hrest)
  · intro h
    induction h with
    | nil => exact .nil
    | @cons m m' _ _ hm _ ih =>
      obtain ⟨key, v⟩ := m
      obtain ⟨key', v'⟩ := m'
      obtain ⟨rfl, hkey | hv⟩ := hm
      · exact .hide hkey ih
      · exact .cons hv ih

namespace Memberwise

variable {R S : String → Json → Json → Prop}

theorem keys_eq (h : Memberwise R members members') : members.map Prod.fst = members'.map Prod.fst := by
  induction h with
  | nil => rfl
  | cons hm _ ih => rw [List.map_cons, List.map_cons, hm.1, ih]

/-- Mapped values are related if the values of each key are related after the map. -/
theorem map {f : String → Json → Json} (hf : ∀ key v v', R key v v' → S key (f key v) (f key v'))
    (h : Memberwise R members members') :
    Memberwise S (members.map fun m => (m.1, f m.1 m.2)) (members'.map fun m => (m.1, f m.1 m.2)) := by
  induction h with
  | nil => exact .nil
  | @cons m m' _ _ hm _ ih =>
    obtain ⟨key, v⟩ := m
    obtain ⟨key', v'⟩ := m'
    obtain ⟨rfl, hv⟩ := hm
    exact .cons ⟨rfl, hf key v v' hv⟩ ih

theorem mono (hRS : ∀ key ∈ members.map Prod.fst, ∀ v v', R key v v' → S key v v')
    (h : Memberwise R members members') : Memberwise S members members' := by
  induction h with
  | nil => exact .nil
  | cons hm _ ih =>
    simp only [List.map_cons, List.forall_mem_cons] at hRS
    exact .cons ⟨hm.1, hRS.1 _ _ hm.2⟩ (ih hRS.2)

/-- A key is found in both or in none, and the values that are found are related. -/
theorem lookup (h : Memberwise R members members') (key : String) :
    (members.lookup key = none ∧ members'.lookup key = none) ∨
      ∃ v v', members.lookup key = some v ∧ members'.lookup key = some v' ∧ R key v v' := by
  induction h with
  | nil => exact .inl ⟨rfl, rfl⟩
  | @cons m m' _ _ hm _ ih =>
    obtain ⟨k, v⟩ := m
    obtain ⟨k', v'⟩ := m'
    obtain ⟨rfl, hv⟩ := hm
    simp only [List.lookup_cons]
    by_cases hk : key = k
    · subst hk
      exact .inr ⟨v, v', by simp, by simp, hv⟩
    · have hbeq : (key == k) = false := by simpa using hk
      simpa only [hbeq] using ih

end Memberwise

end Json

/-! ## Redaction -/

namespace Redactor

open Json

variable {r : Redactor}

/-- The keys whose values the redactor hides. -/
def Hides (r : Redactor) (key : String) : Prop := (r.keyRule? key).isSome

theorem redactMembers_cons_of_hides {key : String} {v : Json} {rest : List (String × Json)} (h : r.Hides key) :
    r.redactMembers ((key, v) :: rest) = (key, .str Redaction.marker) :: r.redactMembers rest := by
  simp only [Hides] at h
  simp [redactMembers, h]

mutual

/-- A redactor does not tell values apart that agree outside of the keys it hides. -/
theorem redactValue_eq_of_agree {v v' : Json} (h : Agree r.Hides v v') : r.redactValue v = r.redactValue v' := by
  match h with
  | .same _ => rfl
  | .arr hitems => rw [redactValue, redactValue, redactItems_eq_of_agree hitems]
  | .obj hmembers => rw [redactValue, redactValue, redactMembers_eq_of_agree hmembers]

theorem redactItems_eq_of_agree {items items' : List Json} (h : AgreeItems r.Hides items items') :
    r.redactItems items = r.redactItems items' := by
  match h with
  | .nil => rfl
  | .cons hv hrest =>
    rw [redactItems, redactItems, redactValue_eq_of_agree hv, redactItems_eq_of_agree hrest]

theorem redactMembers_eq_of_agree {members members' : List (String × Json)}
    (h : AgreeMembers r.Hides members members') : r.redactMembers members = r.redactMembers members' := by
  match h with
  | .nil => rfl
  | .hide hkey hrest =>
    rw [redactMembers_cons_of_hides hkey, redactMembers_cons_of_hides hkey, redactMembers_eq_of_agree hrest]
  | .cons hv hrest =>
    simp only [redactMembers, redactValue_eq_of_agree hv, redactMembers_eq_of_agree hrest]

end

end Redactor

end Periscope
