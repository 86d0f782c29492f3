import Periscope.Proofs.Redaction.Fences

/-!
# The weight of a text

A marker weighs one and every other character two. A rule that cuts no marker makes a text lighter with
everything that it hides, so it cannot lead back to the text it came from, nor can several such rules one after
the other (`foldl_apply_eq_self_iff`).
-/

namespace Periscope.Redaction

open Pattern

variable {text u v w : List Char} {c : Char}

/-! ## Markers across a cut -/

/-- No marker lies across the cut between `u` and `v`. -/
def Apart (u v : List Char) : Prop :=
  ∀ x y, x ≠ [] → y ≠ [] → x <:+ u → y <+: v → x ++ y ≠ marker.toList

theorem prefix_append_cases (h : w <+: u ++ v) : w <+: u ∨ ∃ t, w = u ++ t ∧ t <+: v := by
  obtain ⟨s, hs⟩ := h
  rcases List.append_eq_append_iff.1 hs with ⟨t, hu, -⟩ | ⟨t, hw, hv⟩
  · exact .inl ⟨t, hu.symm⟩
  · exact .inr ⟨t, hw, s, hv.symm⟩

theorem Apart.nil : Apart u [] := fun _ _ _ hy _ hv => absurd (List.prefix_nil.1 hv) hy

theorem Apart.of_last (h : Ends (· ∉ marker.toList) u) : Apart u v := by
  intro x y hx _ hu _ hmarker
  obtain ⟨c, hc, hforeign⟩ := h
  obtain ⟨t, rfl⟩ := hu
  rw [List.getLast?_append, List.getLast?_eq_some_getLast hx, Option.some_or, Option.some.injEq] at hc
  exact hforeign (by rw [← hmarker, ← hc]; exact List.mem_append_left _ (List.getLast_mem hx))

theorem Apart.of_head (h : c ∉ marker.toList) : Apart u (c :: v) := by
  intro x y _ hy _ hv hmarker
  obtain ⟨d, y, rfl⟩ := List.exists_cons_of_ne_nil hy
  obtain ⟨rfl, -⟩ := List.cons_prefix_cons.1 hv
  exact h (by rw [← hmarker]; simp)

theorem marker_toList : marker.toList = '[' :: "REDACTED]".toList := rfl

/-- A marker would begin in `u`. -/
theorem Apart.of_not_open (h : '[' ∉ u) : Apart u v := by
  intro x y hx _ hu _ hmarker
  obtain ⟨d, x, rfl⟩ := List.exists_cons_of_ne_nil hx
  rw [marker_toList, List.cons_append, List.cons.injEq] at hmarker
  exact h (hu.subset (by simp [hmarker.1]))

/-- A marker would end in `w` or hold all of it. -/
theorem Apart.of_unmarked (h : Unmarked w) : Apart u (w ++ v) := by
  intro x y _ hy _ hv hmarker
  have hlast : y.getLast hy = ']' := by
    have := congrArg List.getLast? hmarker
    rw [List.getLast?_append, List.getLast?_eq_some_getLast hy, Option.some_or] at this
    exact Option.some.inj this
  rcases prefix_append_cases hv with hw | ⟨t, rfl, -⟩
  · exact h.noClose (hw.subset (hlast ▸ List.getLast_mem hy))
  · obtain ⟨z, hz, hforeign⟩ := h.foreign
    exact hforeign (by rw [← hmarker]; simp [hz])

theorem Apart.marker_right : Apart u (marker.toList ++ v) := by
  intro x y hx hy _ hv hmarker
  obtain ⟨d, x, rfl⟩ := List.exists_cons_of_ne_nil hx
  obtain ⟨e, y, rfl⟩ := List.exists_cons_of_ne_nil hy
  rw [marker_toList, List.cons_append] at hv
  obtain ⟨rfl, -⟩ := List.cons_prefix_cons.1 hv
  rw [marker_toList, List.cons_append, List.cons.injEq] at hmarker
  have : '[' ∈ "REDACTED]".toList := by rw [← hmarker.2]; simp
  exact absurd this (by decide)

theorem Apart.marker_left : Apart (u ++ marker.toList) v := by
  intro x y hx hy hu _ hmarker
  obtain ⟨t, ht⟩ := hu
  have hlast : x.getLast hx = ']' := by
    have := congrArg List.getLast? ht
    rw [List.getLast?_append, List.getLast?_append, List.getLast?_eq_some_getLast hx, Option.some_or] at this
    exact Option.some.inj this
  obtain ⟨y, d, rfl⟩ := (List.eq_nil_or_concat y).resolve_left hy
  have hinit : x ++ y = "[REDACTED".toList := by
    have := congrArg List.dropLast hmarker
    rwa [List.concat_eq_append, ← List.append_assoc, List.dropLast_concat] at this
  have : ']' ∈ "[REDACTED".toList := by
    rw [← hinit, ← hlast]
    exact List.mem_append_left _ (List.getLast_mem hx)
  exact absurd this (by decide)

/-! ## The weight -/

/-- How many markers begin in the text. -/
def occurrences : List Char → Nat
  | [] => 0
  | c :: rest => (if marker.toList.isPrefixOf (c :: rest) then 1 else 0) + occurrences rest

theorem occurrences_append (h : Apart u v) : occurrences (u ++ v) = occurrences u + occurrences v := by
  induction u with
  | nil => simp [occurrences]
  | cons c u ih =>
    have hrest : Apart u v := fun x y hx hy hu => h x y hx hy (hu.trans (List.suffix_cons c u))
    have hprefix : marker.toList.isPrefixOf (c :: (u ++ v)) = marker.toList.isPrefixOf (c :: u) := by
      rw [Bool.eq_iff_iff, List.isPrefixOf_iff_prefix, List.isPrefixOf_iff_prefix, ← List.cons_append]
      refine ⟨fun hmarker => ?_, fun hmarker => hmarker.trans (List.prefix_append _ _)⟩
      rcases prefix_append_cases hmarker with hmarker | ⟨y, hmarker, hy⟩
      · exact hmarker
      · cases y with
        | nil => exact ⟨[], by rw [hmarker, List.append_nil, List.append_nil]⟩
        | cons d y => exact absurd hmarker.symm (h _ _ (by simp) (by simp) (List.suffix_refl _) hy)
    rw [List.cons_append, occurrences, occurrences, hprefix, ih hrest, Nat.add_assoc]

theorem exists_of_occurrences (h : occurrences text ≠ 0) : ∃ a b, text = a ++ (marker.toList ++ b) := by
  induction text with
  | nil => exact absurd rfl h
  | cons c rest ih =>
    by_cases hprefix : marker.toList.isPrefixOf (c :: rest)
    · obtain ⟨b, hb⟩ := List.isPrefixOf_iff_prefix.1 hprefix
      exact ⟨[], b, hb.symm⟩
    · obtain ⟨a, b, rfl⟩ := ih (by simpa [occurrences, hprefix] using h)
      exact ⟨c :: a, b, rfl⟩

theorem occurrences_marker : occurrences (u ++ (marker.toList ++ v)) = occurrences u + 1 + occurrences v := by
  have hmarker : occurrences marker.toList = 1 := by decide
  have hright : Apart marker.toList v := Apart.marker_left (u := [])
  rw [occurrences_append .marker_right, occurrences_append hright, hmarker, Nat.add_assoc]

theorem length_marker : marker.toList.length = 10 := by decide

/-- Markers do not overlap. -/
theorem occurrences_le (text : List Char) : 10 * occurrences text ≤ text.length := by
  induction hlen : text.length using Nat.strongRecOn generalizing text with
  | ind n ih =>
    subst hlen
    by_cases h : occurrences text = 0
    · omega
    · obtain ⟨a, b, rfl⟩ := exists_of_occurrences h
      have hlen : (a ++ (marker.toList ++ b)).length = a.length + 10 + b.length := by
        rw [List.length_append, List.length_append, length_marker, Nat.add_assoc]
      have ha := ih a.length (by omega) a rfl
      have hb := ih b.length (by omega) b rfl
      rw [occurrences_marker]
      omega

/-- A marker weighs one, every other character two. -/
def weight (text : List Char) : Nat := 2 * text.length - 19 * occurrences text

theorem weight_append (h : Apart u v) : weight (u ++ v) = weight u + weight v := by
  have hu := occurrences_le u
  have hv := occurrences_le v
  rw [weight, weight, weight, occurrences_append h, List.length_append]
  omega

theorem weight_marker : weight (u ++ (marker.toList ++ v)) = weight u + 1 + weight v := by
  have hu := occurrences_le u
  have hv := occurrences_le v
  rw [weight, weight, weight, occurrences_marker, List.length_append, List.length_append, length_marker]
  omega

theorem two_le_weight (hne : w ≠ []) (hmarker : w ≠ marker.toList) : 2 ≤ weight w := by
  have hle := occurrences_le w
  have hpos := List.length_pos_iff.2 hne
  have hone : occurrences w = 1 → w.length ≠ 10 := by
    intro h hlen
    obtain ⟨a, b, rfl⟩ := exists_of_occurrences (show occurrences w ≠ 0 by omega)
    simp only [List.length_append, length_marker] at hlen
    obtain rfl : a = [] := List.length_eq_zero_iff.1 (by omega)
    obtain rfl : b = [] := List.length_eq_zero_iff.1 (by omega)
    simp at hmarker
  rw [weight]
  by_cases h : occurrences w = 0 ∨ occurrences w = 1
  · rcases h with h | h
    · omega
    · have := hone h
      omega
  · omega

/-! ## Rules that cut no marker -/

namespace ContentRule

variable {rule : ContentRule} {prev : Option Char} {as : List Atom}

/-- No marker of a text lies partly in what the rule hides. -/
def SparesMarkers (rule : ContentRule) : Prop :=
  ∀ {prev rest hit front secret back}, rule.pattern.matchAt prev (hit.text ++ rest) = some hit →
    rule.Aims hit front secret back → rule.accepts secret →
    secret ≠ [] ∧ (∀ before, Apart (before ++ front) (secret ++ (back ++ rest))) ∧ Apart secret (back ++ rest)

theorem Tiled.weight_le (hrule : rule.SparesMarkers) (h : Tiled rule prev text as) (kept : List Char) :
    weight (kept ++ shownOf as) + as.countP Atom.isHidden ≤ weight (kept ++ text) := by
  -- What is kept in front of an atom belongs to it, since a marker may begin there.
  induction h generalizing kept with
  | nil => simp
  | @cons prev rest tile as htile htiled ih =>
    cases htile with
    | @plain c _ => simpa [Atom.isHidden, List.append_assoc] using ih (kept ++ [c])
    | @vetoed hit _ _ =>
      have hkept : (hit.text.map Atom.kept).countP Atom.isHidden = 0 := by simp [List.countP_eq_zero, Atom.isHidden]
      simpa [hkept, List.append_assoc] using ih (kept ++ hit.text)
    | @swapped hit front secret back hmatch haims hne haccepts =>
      obtain ⟨hnil, hleft, hright⟩ := hrule hmatch haims haccepts
      have hkept : ∀ w : List Char, (w.map Atom.kept).countP Atom.isHidden = 0 := by
        intro w
        simp [List.countP_eq_zero, Atom.isHidden]
      have hsecret := two_le_weight hnil hne
      have htext : kept ++ (textOf (front.map .kept ++ .hidden secret :: back.map .kept) ++ rest) =
          (kept ++ front) ++ (secret ++ (back ++ rest)) := by simp
      have hshown : kept ++ shownOf ((front.map .kept ++ .hidden secret :: back.map .kept) ++ as) =
          (kept ++ front) ++ (marker.toList ++ (back ++ shownOf as)) := by simp
      rw [htext, hshown, weight_append (hleft kept), weight_append hright, weight_marker]
      have hback := ih back
      simp only [List.countP_append, List.countP_cons, hkept, Atom.isHidden, ↓reduceIte]
      omega

theorem weight_apply (hrule : rule.SparesMarkers) (text : List Char) :
    weight (rule.apply text) + rule.hitCount text ≤ weight text := by
  rw [← shownOf_atoms, hitCount_eq]
  exact (tiled_atoms rule text).weight_le hrule []

/-- A rule that hides nothing leaves the text as it is. -/
theorem apply_of_hitCount (h : rule.hitCount text = 0) : rule.apply text = text := by
  rw [← shownOf_atoms, atoms_of_hitCount h, shownOf_map_kept]

theorem weight_foldl {rules : List ContentRule} (hrules : ∀ rule ∈ rules, rule.SparesMarkers) (text : List Char) :
    weight (rules.foldl (fun current rule => rule.apply current) text) ≤ weight text := by
  induction rules generalizing text with
  | nil => exact Nat.le_refl _
  | cons rule rules ih =>
    have hfirst := weight_apply (hrules rule List.mem_cons_self) text
    have hrest := ih (fun other h => hrules other (List.mem_cons_of_mem _ h)) (rule.apply text)
    rw [List.foldl_cons]
    omega

/-- A text stays what it is under such rules exactly when none of them hides anything in it. -/
theorem foldl_apply_eq_self_iff {rules : List ContentRule} (hrules : ∀ rule ∈ rules, rule.SparesMarkers) :
    rules.foldl (fun current rule => rule.apply current) text = text ↔ ∀ rule ∈ rules, rule.hitCount text = 0 := by
  induction rules with
  | nil => simp
  | cons rule rules ih =>
    have hrest : ∀ other ∈ rules, other.SparesMarkers := fun other h => hrules other (List.mem_cons_of_mem _ h)
    rw [List.foldl_cons, List.forall_mem_cons]
    constructor
    · intro h
      have hzero : rule.hitCount text = 0 := by
        have hfirst := weight_apply (hrules rule List.mem_cons_self) text
        have hall := weight_foldl hrest (rule.apply text)
        rw [h] at hall
        omega
      rw [apply_of_hitCount hzero] at h
      exact ⟨hzero, (ih hrest).1 h⟩
    · rintro ⟨hzero, h⟩
      rw [apply_of_hitCount hzero]
      exact (ih hrest).2 h

end ContentRule

end Periscope.Redaction
