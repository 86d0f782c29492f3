import Periscope.Text.Lowercase

/-!
# What lowercasing keeps

Every character has a lowercase form, so only the empty text becomes empty. In ASCII a character is its lowercase
form or lies a fixed way before it.
-/

namespace Periscope.Text

theorem lowercaseChar_ne_nil (c : Char) : lowercaseChar c ≠ [] := by
  rw [lowercaseChar]
  split
  · exact List.cons_ne_nil _ _
  · split <;> exact List.cons_ne_nil _ _

theorem lowercase_eq_nil_iff {s : List Char} : lowercase s = [] ↔ s = [] := by
  cases s with
  | nil => exact iff_of_true rfl rfl
  | cons c s =>
    have hc := lowercaseChar_ne_nil c
    rw [lowercase, lowercaseAfter]
    split <;> simp [hc]

theorem toLower_cases {c d : Char} (h : c.toLower = d) :
    c = d ∨ c.toNat + 32 = d.toNat ∧ 65 ≤ c.toNat := by
  unfold Char.toLower at h
  split at h
  · next upper =>
    subst h
    have lower : 65 ≤ c.toNat := UInt32.le_iff_toNat_le.1 upper.1
    have bound : c.toNat ≤ 90 := UInt32.le_iff_toNat_le.1 upper.2
    have exact' : (c.toNat + 32) % 2 ^ 32 = c.toNat + 32 := Nat.mod_eq_of_lt (by omega)
    exact .inr ⟨exact'.symm.trans (UInt32.toNat_add c.val 32).symm, lower⟩
  · exact .inl h

end Periscope.Text
