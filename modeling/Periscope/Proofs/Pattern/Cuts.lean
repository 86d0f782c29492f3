import Periscope.Proofs.Pattern.Language

/-!
# The matches of a text

A search cuts a text from left to right into matches that do not overlap and the characters outside all of them.
What it takes is determined at every place: a match is taken wherever there is one, except an empty match right
behind another match. Main result: `cuts_iff`.
-/

namespace Periscope.Pattern

variable {p : Pattern} {prev : Option Char} {adjacent : Bool} {text rest : List Char} {hit : Hit} {c : Char}
  {segments : List Segment}

/-- A text is cut at its matches, from left to right. `prev` is the character before the text, and `adjacent` says
that a match ends right there. -/
inductive Cuts (p : Pattern) : Option Char → Bool → List Char → List Segment → Prop where
  | done {prev : Option Char} {adjacent : Bool} : (adjacent = false → p.matchAt prev [] = none) →
      Cuts p prev adjacent [] []
  | plain {prev : Option Char} {adjacent : Bool} {c : Char} {rest : List Char} {segments : List Segment} :
      (∀ hit, p.matchAt prev (c :: rest) = some hit → hit.text = [] ∧ adjacent) →
      Cuts p (some c) false rest segments → Cuts p prev adjacent (c :: rest) (.plain c :: segments)
  | hit {prev : Option Char} {adjacent : Bool} {hit : Hit} {rest : List Char} {segments : List Segment} :
      p.matchAt prev (hit.text ++ rest) = some hit → (hit.text = [] → adjacent = false) →
      Cuts p (hit.text.getLast?.or prev) true rest segments →
      Cuts p prev adjacent (hit.text ++ rest) (.hit hit :: segments)

theorem segmentsFrom_skip {n : Nat} (hn : n ≤ text.length) :
    p.segmentsFrom prev n true text = p.segmentsFrom ((text.take n).getLast?.or prev) 0 true (text.drop n) := by
  induction n generalizing prev text with
  | zero => rfl
  | succ n ih =>
    cases text with
    | nil => simp at hn
    | cons c text =>
      rw [segmentsFrom, ih (Nat.le_of_succ_le_succ hn), List.take_succ_cons, List.getLast?_cons, Option.some_or,
        List.drop_succ_cons, ← Option.or_some]

/-- A match that is not empty is taken, and the search goes on behind it. -/
theorem segmentsFrom_hit (h : p.matchAt prev (hit.text ++ rest) = some hit) (hne : hit.text ≠ []) :
    p.segmentsFrom prev 0 adjacent (hit.text ++ rest) =
      .hit hit :: p.segmentsFrom (hit.text.getLast?.or prev) 0 true rest := by
  obtain ⟨c, front, hfront⟩ := List.exists_cons_of_ne_nil hne
  rw [hfront, List.cons_append] at h ⊢
  have hlen : hit.text.length = front.length + 1 := by rw [hfront, List.length_cons]
  have hskip : p.segmentsFrom (some c) front.length true (front ++ rest) =
      p.segmentsFrom (front.getLast?.or (some c)) 0 true rest := by
    rw [segmentsFrom_skip (by simp), List.take_left, List.drop_left]
  have hlast : (c :: front).getLast?.or prev = front.getLast?.or (some c) := by
    rw [List.getLast?_cons, Option.some_or, ← Option.or_some]
  simp only [segmentsFrom, h, hlen, hskip, hlast]

theorem segmentsFrom_nil (h : adjacent = false → p.matchAt prev [] = none) :
    p.segmentsFrom prev 0 adjacent [] = [] := by
  rw [segmentsFrom]
  cases adjacent with
  | true => split <;> rfl
  | false => rw [h rfl]

theorem segmentsFrom_plain (h : ∀ hit, p.matchAt prev (c :: rest) = some hit → hit.text = [] ∧ adjacent) :
    p.segmentsFrom prev 0 adjacent (c :: rest) = .plain c :: p.segmentsFrom (some c) 0 false rest := by
  rw [segmentsFrom]
  cases hmatch : p.matchAt prev (c :: rest) with
  | none => rfl
  | some hit =>
    obtain ⟨hempty, rfl⟩ := h hit hmatch
    simp [hempty]

/-- An empty match is taken unless another match ends right there. -/
theorem segmentsFrom_empty (h : p.matchAt prev text = some hit) (hempty : hit.text = []) :
    p.segmentsFrom prev 0 false text = .hit hit :: p.segmentsFrom prev 0 true text := by
  cases text with
  | nil => simp [segmentsFrom, h]
  | cons c rest => simp [segmentsFrom, h, hempty]

private theorem segmentsFrom_cuts_outside (h : ∀ hit, p.matchAt prev text = some hit → hit.text = [] ∧ adjacent)
    (hrest : ∀ c rest, text = c :: rest → p.Cuts (some c) false rest (p.segmentsFrom (some c) 0 false rest)) :
    p.Cuts prev adjacent text (p.segmentsFrom prev 0 adjacent text) := by
  cases text with
  | nil =>
    have hnone : adjacent = false → p.matchAt prev [] = none := by
      rintro rfl
      exact Option.eq_none_iff_forall_ne_some.2 fun hit hmatch => absurd (h hit hmatch).2 (by simp)
    rw [segmentsFrom_nil hnone]
    exact .done hnone
  | cons c rest =>
    rw [segmentsFrom_plain h]
    exact .plain h (hrest c rest rfl)

theorem segmentsFrom_cuts (p : Pattern) (prev : Option Char) (adjacent : Bool) (text : List Char) :
    p.Cuts prev adjacent text (p.segmentsFrom prev 0 adjacent text) := by
  -- A match is skipped as a whole, so the induction is on the length of what is left.
  induction hlen : text.length using Nat.strongRecOn generalizing prev adjacent text with
  | ind n ih =>
    subst hlen
    have hrest : ∀ c rest, text = c :: rest → p.Cuts (some c) false rest (p.segmentsFrom (some c) 0 false rest) := by
      rintro c rest rfl
      exact ih rest.length (Nat.lt_succ_self _) _ _ _ rfl
    cases hmatch : p.matchAt prev text with
    | none => exact segmentsFrom_cuts_outside (by simp [hmatch]) hrest
    | some hit =>
      by_cases hempty : hit.text = []
      · have behind : p.Cuts prev true text (p.segmentsFrom prev 0 true text) := by
          refine segmentsFrom_cuts_outside (fun other h => ?_) hrest
          rw [hmatch] at h
          cases h
          exact ⟨hempty, rfl⟩
        cases adjacent with
        | true => exact behind
        | false =>
          have taken : p.Cuts prev false (hit.text ++ text) (.hit hit :: p.segmentsFrom prev 0 true text) :=
            .hit (by rwa [hempty]) (fun _ => rfl) (by rwa [hempty])
          rwa [hempty, List.nil_append, ← segmentsFrom_empty hmatch hempty] at taken
      · obtain ⟨stop, -, htext, -⟩ := matchAt_eq_some hmatch
        have hpos := List.length_pos_iff.2 hempty
        have hshort : stop.rest.length < text.length := by
          rw [htext, List.length_append]
          omega
        rw [htext] at hmatch ⊢
        rw [segmentsFrom_hit hmatch hempty]
        exact .hit hmatch (fun h => absurd h hempty) (ih _ hshort _ _ _ rfl)

/-- No other way of cutting the text is right. -/
theorem cuts_iff : p.Cuts prev adjacent text segments ↔ segments = p.segmentsFrom prev 0 adjacent text := by
  constructor
  · intro h
    induction h with
    | done hnone => rw [segmentsFrom_nil hnone]
    | plain hplain _ ih => rw [segmentsFrom_plain hplain, ih]
    | @hit prev adjacent hit rest segments hmatch hadjacent _ ih =>
      by_cases hempty : hit.text = []
      · obtain rfl := hadjacent hempty
        rw [hempty, List.nil_append] at hmatch ⊢
        rw [segmentsFrom_empty hmatch hempty, ih, hempty]
        rfl
      · rw [segmentsFrom_hit hmatch hempty, ih]
  · rintro rfl
    exact segmentsFrom_cuts p prev adjacent text

theorem segments_cuts (p : Pattern) (text : List Char) : p.Cuts none false text (p.segments text) := by
  rw [segments_eq]
  exact segmentsFrom_cuts p none false text

end Periscope.Pattern
