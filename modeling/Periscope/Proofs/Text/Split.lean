import Periscope.Text.Split

/-!
# Texts around a separator

What the two parts of a text around a separator are, and that they are the only such parts.
-/

namespace Periscope.Text

variable {c : Char} {text before behind : List Char}

/-- Without a separator there is nothing to split. -/
theorem splitFirst?_eq_none : splitFirst? c text = none ↔ c ∉ text := by
  induction text with
  | nil => simp [splitFirst?]
  | cons x rest ih =>
    rw [splitFirst?]
    by_cases hx : x = c
    · simp [hx]
    · simp [hx, ih, Ne.symm hx]

theorem splitFirst?_eq_some :
    splitFirst? c text = some (before, behind) ↔ text = before ++ c :: behind ∧ c ∉ before := by
  induction text generalizing before with
  | nil => simp [splitFirst?]
  | cons x rest ih =>
    rw [splitFirst?]
    by_cases hx : x = c
    · cases before <;> simp +contextual [hx, eq_comm]
    · simp only [beq_iff_eq, hx, ↓reduceIte, Option.map_eq_some_iff, Prod.exists, Prod.mk.injEq]
      constructor
      · rintro ⟨front, back, hrest, rfl, rfl⟩
        obtain ⟨rfl, free⟩ := ih.1 hrest
        exact ⟨rfl, by simp [Ne.symm hx, free]⟩
      · rintro ⟨h, free⟩
        cases before with
        | nil => exact absurd (List.cons.inj h).1 hx
        | cons y before =>
          obtain ⟨rfl, rfl⟩ := List.cons.inj h
          exact ⟨before, behind, ih.2 ⟨rfl, List.not_mem_of_not_mem_cons free⟩, rfl, rfl⟩

/-- Two texts with the same last separator have the same parts around it. -/
theorem append_cons_inj {before' behind' : List Char} (free : c ∉ behind) (free' : c ∉ behind')
    (h : before ++ c :: behind = before' ++ c :: behind') : before = before' ∧ behind = behind' := by
  rcases List.append_eq_append_iff.1 h with ⟨between, rfl, hrest⟩ | ⟨between, rfl, hrest⟩
  · cases between with
    | nil => simpa using hrest
    | cons x between =>
      obtain ⟨rfl, rfl⟩ := List.cons.inj hrest
      simp at free
  · cases between with
    | nil => simpa [eq_comm] using hrest
    | cons x between =>
      obtain ⟨rfl, rfl⟩ := List.cons.inj hrest
      simp at free'

/-- Two lists are cut at the same place if the mark that begins their second parts is in none of their first. -/
theorem cut_inj {α : Type} {mark : α} {s s' t t' : List α} (free : mark ∉ s) (free' : mark ∉ s')
    (marked : ∀ c ∈ t.head?, c = mark) (marked' : ∀ c ∈ t'.head?, c = mark) (h : s ++ t = s' ++ t') :
    s = s' ∧ t = t' := by
  induction s generalizing s' with
  | nil =>
    cases s' with
    | nil => exact ⟨rfl, h⟩
    | cons c s' =>
      obtain rfl : t = c :: (s' ++ t') := h
      exact absurd (marked c rfl ▸ List.mem_cons_self) free'
  | cons c s ih =>
    cases s' with
    | nil =>
      obtain rfl : c :: (s ++ t) = t' := h
      exact absurd (marked' c rfl ▸ List.mem_cons_self) free
    | cons c' s' =>
      obtain ⟨rfl, rest⟩ := List.cons.inj h
      obtain ⟨rfl, rfl⟩ := ih (List.not_mem_of_not_mem_cons free) (List.not_mem_of_not_mem_cons free') rest
      exact ⟨rfl, rfl⟩

end Periscope.Text
