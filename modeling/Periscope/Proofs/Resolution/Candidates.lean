import Periscope.Proofs.Discovery.Grouping
import Periscope.Proofs.Discovery.Sorting
import Periscope.Proofs.Resolution.Routes

/-!
# Candidates

A scan keeps the first candidate for each type and decides by what is left. How the candidates of different groups
are mixed does not count.
-/

namespace Periscope

namespace Identifier

variable {id : Identifier}

section FirstPerType

variable {cs kept : List Candidate} {c : Candidate}

/-- One step of the search for candidates of different types. -/
private def keep (kept : List Candidate) (c : Candidate) : List Candidate :=
  if kept.any fun k => k.resolved.type == c.resolved.type then kept else kept ++ [c]

private theorem pairwise_keep (h : kept.Pairwise fun a b => a.resolved.type ≠ b.resolved.type) :
    (keep kept c).Pairwise fun a b => a.resolved.type ≠ b.resolved.type := by
  unfold keep
  split
  · exact h
  · next hnew =>
    rw [List.pairwise_append]
    refine ⟨h, List.pairwise_singleton _ _, fun a ha b hb => ?_⟩
    rw [List.mem_singleton.1 hb]
    intro heq
    exact hnew (List.any_eq_true.2 ⟨a, ha, by simp [heq]⟩)

private theorem pairwise_foldl_keep (h : kept.Pairwise fun a b => a.resolved.type ≠ b.resolved.type) :
    (cs.foldl keep kept).Pairwise fun a b => a.resolved.type ≠ b.resolved.type := by
  induction cs generalizing kept with
  | nil => exact h
  | cons x rest ih => exact ih (pairwise_keep h)

private theorem filter_keep (p : GroupVersionResource → Bool) (kept : List Candidate) (c : Candidate) :
    (keep kept c).filter (p ·.resolved.type) =
      if p c.resolved.type then keep (kept.filter (p ·.resolved.type)) c
      else kept.filter (p ·.resolved.type) := by
  unfold keep
  cases hc : p c.resolved.type with
  | true =>
    -- a candidate of the type of `c` passes the filter as `c` does
    have hany : ((kept.filter (p ·.resolved.type)).any fun k => k.resolved.type == c.resolved.type) =
        kept.any fun k => k.resolved.type == c.resolved.type := by
      rw [List.any_filter]
      congr 1
      funext k
      by_cases hk : k.resolved.type = c.resolved.type <;> simp [hk, hc]
    rw [hany]
    split <;> simp [hc]
  | false =>
    split <;> simp [hc]

private theorem filter_foldl_keep (p : GroupVersionResource → Bool) (cs kept : List Candidate) :
    (cs.foldl keep kept).filter (p ·.resolved.type) =
      (cs.filter (p ·.resolved.type)).foldl keep (kept.filter (p ·.resolved.type)) := by
  induction cs generalizing kept with
  | nil => rfl
  | cons c cs ih =>
    rw [List.foldl_cons, ih, filter_keep, List.filter_cons]
    split <;> rfl

theorem pairwise_firstPerType :
    (firstPerType cs).Pairwise fun a b => a.resolved.type ≠ b.resolved.type :=
  pairwise_foldl_keep .nil

/-- Candidates of some types are kept or dropped whatever the others are. -/
theorem filter_firstPerType (p : GroupVersionResource → Bool) (cs : List Candidate) :
    (firstPerType cs).filter (p ·.resolved.type) = firstPerType (cs.filter (p ·.resolved.type)) :=
  filter_foldl_keep p cs []

private theorem foldl_keep_of_known (h : ∀ c ∈ cs, ∃ k ∈ kept, k.resolved.type = c.resolved.type) :
    cs.foldl keep kept = kept := by
  induction cs with
  | nil => rfl
  | cons c cs ih =>
    obtain ⟨k, hk, htype⟩ := h c (by simp)
    have hkeep : keep kept c = kept := if_pos (List.any_eq_true.2 ⟨k, hk, by simp [htype]⟩)
    rw [List.foldl_cons, hkeep]
    exact ih fun c hc => h c (List.mem_cons_of_mem _ hc)

/-- What is kept of a type is its first candidate. -/
theorem filter_type_firstPerType (t : GroupVersionResource) (cs : List Candidate) :
    (firstPerType cs).filter (·.resolved.type == t) = (cs.find? (·.resolved.type == t)).toList := by
  rw [filter_firstPerType (· == t), ← List.head?_filter]
  have htype : ∀ x ∈ cs.filter (·.resolved.type == t), x.resolved.type = t := by simp
  cases hcs : cs.filter (·.resolved.type == t) with
  | nil => rfl
  | cons c rest =>
    rw [hcs] at htype
    exact foldl_keep_of_known fun x hx =>
      ⟨c, List.mem_singleton_self c, by rw [htype c (by simp), htype x (List.mem_cons_of_mem _ hx)]⟩

theorem mem_firstPerType_iff : c ∈ firstPerType cs ↔ cs.find? (·.resolved.type == c.resolved.type) = some c := by
  have h : c ∈ (firstPerType cs).filter (·.resolved.type == c.resolved.type) ↔
      c ∈ (cs.find? (·.resolved.type == c.resolved.type)).toList := by rw [filter_type_firstPerType]
  simpa using h

theorem firstPerType_alike {cs cs' : List Candidate}
    (h : AlikeByGroup (fun c => c.resolved.type.group) cs cs') :
    AlikeByGroup (fun c => c.resolved.type.group) (firstPerType cs) (firstPerType cs') := by
  intro g
  rw [filter_firstPerType fun t => t.group == g, h g, ← filter_firstPerType fun t => t.group == g]

theorem exists_mem_firstPerType (h : c ∈ cs) : ∃ k ∈ firstPerType cs, k.resolved.type = c.resolved.type := by
  obtain ⟨k, hk⟩ : ∃ k, cs.find? (·.resolved.type == c.resolved.type) = some k :=
    Option.isSome_iff_exists.1 (List.find?_isSome.2 ⟨c, h, by simp⟩)
  have htype : k.resolved.type = c.resolved.type := by simpa using List.find?_some hk
  exact ⟨k, mem_firstPerType_iff.2 (by rwa [htype]), htype⟩

/-- Several candidates are kept exactly when two of them are of different types. -/
theorem two_le_length_firstPerType : 2 ≤ (firstPerType cs).length ↔
    ∃ c ∈ cs, ∃ c' ∈ cs, c.resolved.type ≠ c'.resolved.type := by
  constructor
  · intro h
    have hpair : (firstPerType cs).Pairwise fun a b => a.resolved.type ≠ b.resolved.type :=
      pairwise_firstPerType
    match hcs : firstPerType cs with
    | [] => simp [hcs] at h
    | [_] => simp [hcs] at h
    | a :: b :: rest =>
      rw [hcs, List.pairwise_cons] at hpair
      exact ⟨a, mem_of_mem_firstPerType (by simp [hcs]), b, mem_of_mem_firstPerType (by simp [hcs]),
        hpair.1 b (by simp)⟩
  · rintro ⟨c, hc, c', hc', hne⟩
    obtain ⟨k, hk, hkc⟩ := exists_mem_firstPerType hc
    obtain ⟨k', hk', hkc'⟩ := exists_mem_firstPerType hc'
    match hcs : firstPerType cs with
    | [] => simp [hcs] at hk
    | [a] =>
      rw [hcs, List.mem_singleton] at hk hk'
      exact absurd (hkc.symm.trans (by rw [hk, ← hk', hkc'])) hne
    | _ :: _ :: _ => simp

end FirstPerType

/-! ## The choice -/

section Choose

variable {cs cs' : List Candidate}

theorem choose_of_two_le (h : 2 ≤ cs.length) :
    id.choose cs = .error (.ambiguous id.what (sortTexts (cs.map Candidate.label))) := by
  match cs, h with
  | _ :: _ :: _, _ => rfl

theorem choose_ambiguous {what : String} {labels : List String}
    (h : id.choose cs = .error (.ambiguous what labels)) :
    2 ≤ cs.length ∧ labels = sortTexts (cs.map Candidate.label) := by
  match cs, h with
  | _ :: _ :: _, h =>
    cases h
    exact ⟨by simp, rfl⟩

theorem choose_ambiguous_iff :
    (∃ what labels, id.choose cs = .error (.ambiguous what labels)) ↔ 2 ≤ cs.length := by
  constructor
  · rintro ⟨what, labels, h⟩
    exact (choose_ambiguous h).1
  · exact fun h => ⟨_, _, choose_of_two_le h⟩

theorem choose_perm (h : cs.Perm cs') : id.choose cs = id.choose cs' := by
  match cs, cs', h with
  | [], _, h => rw [h.symm.eq_nil]
  | [c], _, h => rw [List.singleton_perm.1 h]
  | c :: d :: cs, cs', h =>
    have htwo : 2 ≤ (c :: d :: cs).length := by simp
    rw [choose_of_two_le htwo, choose_of_two_le (h.length_eq ▸ htwo), sortTexts_congr (h.map _)]

end Choose

end Identifier

end Periscope
