import Periscope.Redaction.Redactor

/-!
# The strings of a redacted value

Redaction works on a value string by string, so what holds of redacted texts holds of the strings of a redacted
value. The marker is a redacted text itself as long as no rule works on it.
-/

namespace Periscope

namespace Json

mutual

/-- The strings of a value, the keys of its objects apart. -/
def leaves : Json → List String
  | .str s => [s]
  | .arr items => itemLeaves items
  | .obj members => memberLeaves members
  | _ => []

/-- The strings of the items. -/
def itemLeaves : List Json → List String
  | [] => []
  | v :: rest => v.leaves ++ itemLeaves rest

/-- The strings of the members. -/
def memberLeaves : List (String × Json) → List String
  | [] => []
  | (_, v) :: rest => v.leaves ++ memberLeaves rest

end

end Json

namespace Redactor

open Redaction

variable {r : Redactor} {s : String}

mutual

theorem redactText_of_mem_leaves (hmarker : r.redactText marker = marker) :
    (v : Json) → s ∈ (r.redactValue v).leaves → ∃ text, r.redactText text = s
  | .null, h => by simp [redactValue, Json.leaves] at h
  | .bool _, h => by simp [redactValue, Json.leaves] at h
  | .num _, h => by simp [redactValue, Json.leaves] at h
  | .str text, h => by
      simp only [redactValue, Json.leaves, List.mem_singleton] at h
      exact ⟨text, h.symm⟩
  | .arr items, h => by
      simp only [redactValue, Json.leaves] at h
      exact redactText_of_mem_itemLeaves hmarker items h
  | .obj members, h => by
      simp only [redactValue, Json.leaves] at h
      exact redactText_of_mem_memberLeaves hmarker members h

theorem redactText_of_mem_itemLeaves (hmarker : r.redactText marker = marker) :
    (items : List Json) → s ∈ Json.itemLeaves (r.redactItems items) → ∃ text, r.redactText text = s
  | [], h => by simp [redactItems, Json.itemLeaves] at h
  | v :: rest, h => by
      simp only [redactItems, Json.itemLeaves, List.mem_append] at h
      rcases h with h | h
      · exact redactText_of_mem_leaves hmarker v h
      · exact redactText_of_mem_itemLeaves hmarker rest h

theorem redactText_of_mem_memberLeaves (hmarker : r.redactText marker = marker) :
    (members : List (String × Json)) → s ∈ Json.memberLeaves (r.redactMembers members) →
      ∃ text, r.redactText text = s
  | [], h => by simp [redactMembers, Json.memberLeaves] at h
  | (key, v) :: rest, h => by
      simp only [redactMembers, Json.memberLeaves, List.mem_append] at h
      rcases h with h | h
      · split at h
        · simp only [Json.leaves, List.mem_singleton] at h
          exact ⟨marker, hmarker.trans h.symm⟩
        · exact redactText_of_mem_leaves hmarker v h
      · exact redactText_of_mem_memberLeaves hmarker rest h

end

mutual

/-- Redacting again changes nothing exactly when it changes no string. -/
theorem redactValue_redactValue_eq_iff (hmarker : r.redactText marker = marker) :
    (v : Json) → (r.redactValue (r.redactValue v) = r.redactValue v ↔
      ∀ s ∈ (r.redactValue v).leaves, r.redactText s = s)
  | .null => by simp [redactValue, Json.leaves]
  | .bool _ => by simp [redactValue, Json.leaves]
  | .num _ => by simp [redactValue, Json.leaves]
  | .str _ => by simp [redactValue, Json.leaves]
  | .arr items => by
      simp only [redactValue, Json.leaves, Json.arr.injEq]
      exact redactItems_redactItems_eq_iff hmarker items
  | .obj members => by
      simp only [redactValue, Json.leaves, Json.obj.injEq]
      exact redactMembers_redactMembers_eq_iff hmarker members

theorem redactItems_redactItems_eq_iff (hmarker : r.redactText marker = marker) :
    (items : List Json) → (r.redactItems (r.redactItems items) = r.redactItems items ↔
      ∀ s ∈ Json.itemLeaves (r.redactItems items), r.redactText s = s)
  | [] => by simp [redactItems, Json.itemLeaves]
  | v :: rest => by
      simp only [redactItems, Json.itemLeaves, List.cons.injEq, List.mem_append, or_imp, forall_and]
      exact and_congr (redactValue_redactValue_eq_iff hmarker v) (redactItems_redactItems_eq_iff hmarker rest)

theorem redactMembers_redactMembers_eq_iff (hmarker : r.redactText marker = marker) :
    (members : List (String × Json)) → (r.redactMembers (r.redactMembers members) = r.redactMembers members ↔
      ∀ s ∈ Json.memberLeaves (r.redactMembers members), r.redactText s = s)
  | [] => by simp [redactMembers, Json.memberLeaves]
  | (key, v) :: rest => by
      simp only [redactMembers, Json.memberLeaves, List.cons.injEq, List.mem_append, or_imp, forall_and,
        Prod.mk.injEq, true_and]
      refine and_congr ?_ (redactMembers_redactMembers_eq_iff hmarker rest)
      split
      · simp [Json.leaves, hmarker]
      · exact redactValue_redactValue_eq_iff hmarker v

end

end Redactor

end Periscope
