import Periscope.Proofs.Pattern.Combinators

/-!
# The way that the matcher takes

What a match says beyond the language of its pattern: where its group lies, and that a greedy repetition
goes on as far as it can when nothing behind it can fail.
-/

namespace Periscope.Pattern

variable {p body : Pattern} {ps qs : List Pattern} {S : CharSet} {next : Cursor → Option Cursor}
  {c e : Cursor} {n : Nat}

/-! ## Sequences -/

theorem run_seqs_cons : (seqs (p :: ps)).run next c = p.run ((seqs ps).run next) c := by
  cases ps <;> rfl

theorem run_seqs_append : (seqs (ps ++ qs)).run next c = (seqs ps).run ((seqs qs).run next) c := by
  induction ps generalizing c with
  | nil => rfl
  | cons p ps ih =>
    have hrest : (seqs (ps ++ qs)).run next = (seqs ps).run ((seqs qs).run next) := funext fun d => ih
    rw [List.cons_append, run_seqs_cons, run_seqs_cons, hrest]

/-! ## Groups -/

/-- The matcher reaches a group behind a text that the front accepts. -/
theorem run_group (front back : List Pattern) {name : String}
    (h : (seqs (front ++ group name body :: back)).run some c = some e) :
    ∃ u d, c.Reads u d ∧ (seqs front).Accepts c.prev u d.rest.head? ∧
      body.run (fun s => (seqs back).run some { s with groups := (name, d.pos, s.pos) :: s.groups }) d
        = some e := by
  rw [run_seqs_append] at h
  obtain ⟨u, d, hu, hfront, h⟩ := run_sound _ _ _ _ h
  rw [run_seqs_cons] at h
  exact ⟨u, d, hu, hfront, h⟩

/-- A match with a group in it lies in three parts, and the group is the middle one. The back part has no
group of its own. -/
theorem matchAt_group (front back : List Pattern) {name : String} {prev : Option Char} {text : List Char} {hit : Hit}
    (hback : ∀ c e, (seqs back).run some c = some e → e.groups = c.groups)
    (h : (seqs (front ++ group name body :: back)).matchAt prev text = some hit) :
    ∃ u v w rest, hit.text = u ++ v ++ w ∧ hit.groups.lookup name = some (u.length, u.length + v.length) ∧
      (seqs front).Accepts prev u (v ++ w ++ rest).head? ∧
      body.Accepts (u.getLast?.or prev) v (w ++ rest).head? ∧
      (seqs back).Accepts (v.getLast?.or (u.getLast?.or prev)) w rest.head? ∧ text = u ++ v ++ w ++ rest := by
  obtain ⟨stop, hrun, htext, hgroups, -⟩ := matchAt_eq_some h
  obtain ⟨u, d, hu, hfront, hrun⟩ := run_group front back hrun
  obtain ⟨v, s, hv, hbody, hrun⟩ := run_sound _ _ _ _ hrun
  obtain ⟨w, t, hw, hb, ht⟩ := run_sound _ _ _ _ hrun
  cases ht
  have hu' : text = u ++ d.rest := hu.rest
  have hv' : d.rest = v ++ s.rest := hv.rest
  have hw' : s.rest = w ++ stop.rest := hw.rest
  have hd : d.pos = u.length := hu.pos.trans (Nat.zero_add _)
  rw [hu', hv', hw'] at htext
  refine ⟨u, v, w, stop.rest, ?_, ?_, ?_, ?_, ?_, by rw [hu', hv', hw']; simp⟩
  · exact List.append_cancel_right (htext.symm.trans (by simp))
  · rw [hgroups, hback _ _ hrun]
    simp [hd, hv.pos]
  · simpa [hv', hw'] using hfront
  · rw [hu.prev, hw'] at hbody
    exact hbody
  · rw [hv.prev, hu.prev] at hb
    exact hb

/-! ## Greedy repetitions -/

theorem run_one_cons {x : Char} {rest : List Char} (hrest : c.rest = x :: rest) :
    (one S).run next c = if S.contains x then next ⟨some x, c.pos + 1, rest, c.groups⟩ else none := by
  simp only [run, hrest]

/-- No character of the set stands there. -/
def Stops (S : CharSet) (next : Option Char) : Prop := ∀ x, next = some x → S.contains x = false

theorem Stops.nil : Stops S none := nofun

theorem Stops.some {x : Char} (h : S.contains x = false) : Stops S (some x) := by
  rintro _ ⟨⟩
  exact h

theorem Stops.append {w z : List Char} (hw : ∀ x ∈ w, S.contains x = false) (hz : Stops S z.head?) :
    Stops S (w ++ z).head? := by
  cases w with
  | nil => exact hz
  | cons x w => exact .some (hw x List.mem_cons_self)

theorem Stops.last {w z : List Char} (hne : w ≠ []) (hw : ∀ x ∈ w, S.contains x = false) :
    Stops S (z ++ w).getLast? := by
  rw [List.getLast?_append, List.getLast?_eq_some_getLast hne]
  exact .some (hw _ (List.getLast_mem hne))

/-- A run that cannot go on is the longest one. -/
theorem takeWhile_over {u x : List Char} (hu : Over S u) (hx : Stops S x.head?) :
    (u ++ x).takeWhile S.contains = u := by
  rw [List.takeWhile_append_of_pos hu]
  cases x with
  | nil => simp
  | cons c x => simp [hx c rfl]

/-- A run that cannot go on is determined by the text. -/
theorem over_unique {u v x y : List Char} (hu : Over S u) (hv : Over S v) (hx : Stops S x.head?)
    (hy : Stops S y.head?) (h : u ++ x = v ++ y) : u = v ∧ x = y := by
  have huv : u = v := by rw [← takeWhile_over hu hx, h, takeWhile_over hv hy]
  subst huv
  exact ⟨rfl, List.append_cancel_left h⟩

/-- As `over_unique`, for runs at the end of a text. -/
theorem over_unique_last {u v x y : List Char} (hu : Over S u) (hv : Over S v) (hx : Stops S x.getLast?)
    (hy : Stops S y.getLast?) (h : x ++ u = y ++ v) : x = y ∧ u = v := by
  have hreverse : u.reverse ++ x.reverse = v.reverse ++ y.reverse := by
    rw [← List.reverse_append, ← List.reverse_append, h]
  obtain ⟨huv, hxy⟩ := over_unique (fun c hc => hu c (List.mem_reverse.1 hc)) (fun c hc => hv c (List.mem_reverse.1 hc))
    (by rwa [List.head?_reverse]) (by rwa [List.head?_reverse]) hreverse
  exact ⟨List.reverse_inj.1 hxy, List.reverse_inj.1 huv⟩

theorem moreRounds_isSome {m : Matcher} (hnext : ∀ d, (next d).isSome) (bound : List Char) (c : Cursor) :
    (moreRounds m true next bound c).isSome := by
  cases bound with
  | nil => exact hnext c
  | cons x bound => exact isSome_orElse.2 (.inr (hnext c))

theorem moreRounds_greedy (hnext : ∀ d, (next d).isSome) {bound : List Char} (hlen : c.rest.length ≤ bound.length)
    (h : moreRounds (one S).run true next bound c = some e) :
    ∃ u d, c.Reads u d ∧ Over S u ∧ Stops S d.rest.head? ∧ next d = some e := by
  induction bound generalizing c with
  | nil =>
    have hrest : c.rest = [] := List.length_eq_zero_iff.1 (Nat.le_zero.1 hlen)
    exact ⟨[], c, .refl c, over_nil, by simp [Stops, hrest], h⟩
  | cons b bound ih =>
    have hstop : Stops S c.rest.head? → next c = some e →
        ∃ u d, c.Reads u d ∧ Over S u ∧ Stops S d.rest.head? ∧ next d = some e :=
      fun hstops h => ⟨[], c, .refl c, over_nil, hstops, h⟩
    rw [moreRounds, if_pos rfl] at h
    rcases hrest : c.rest with _ | ⟨x, rest⟩
    · simp only [run, hrest, Option.orElse_none] at h
      exact hstop (by simp [Stops, hrest]) h
    · by_cases hx : S.contains x
      · simp only [run_one_cons hrest, hx, Nat.lt_add_one, ↓reduceIte] at h
        rcases orElse_eq_some.1 h with h | ⟨hnone, -⟩
        · have hlen : rest.length ≤ bound.length := by simpa [hrest] using hlen
          obtain ⟨u, d, hu, hover, hstops, hd⟩ := ih (c := ⟨some x, c.pos + 1, rest, c.groups⟩) hlen h
          exact ⟨x :: u, d, (Cursor.Reads.one hrest).trans hu, over_cons.2 ⟨hx, hover⟩, hstops, hd⟩
        · have := moreRounds_isSome (m := (one S).run) hnext bound ⟨some x, c.pos + 1, rest, c.groups⟩
          simp [hnone] at this
      · simp only [run_one_cons hrest, hx, Bool.false_eq_true, ↓reduceIte, Option.orElse_none] at h
        exact hstop (by simpa [Stops, hrest] using hx) h

/-- A greedy repetition of a set goes on up to a character outside the set. -/
theorem run_plus_greedy (hnext : ∀ d, (next d).isSome) (h : (plus (one S) true).run next c = some e) :
    ∃ u d, c.Reads u d ∧ u ≠ [] ∧ Over S u ∧ Stops S d.rest.head? ∧ next d = some e := by
  rw [run] at h
  obtain ⟨_, d, hx, ⟨x, rfl, hset⟩, h⟩ := run_sound _ _ _ _ h
  rw [if_pos (hx.pos_lt_iff.2 (List.cons_ne_nil _ _))] at h
  obtain ⟨u, d', hu, hover, hstops, hd⟩ := moreRounds_greedy hnext (Nat.le_refl _) h
  exact ⟨x :: u, d', hx.trans hu, List.cons_ne_nil _ _, over_cons.2 ⟨hset, hover⟩, hstops, hd⟩

theorem run_copiesThen_one (h : (copiesThen (.one S) p n).run next c = some e) :
    ∃ u d, c.Reads u d ∧ u.length = n ∧ Over S u ∧ p.run next d = some e := by
  induction n generalizing c with
  | zero => exact ⟨[], c, .refl c, rfl, over_nil, h⟩
  | succ n ih =>
    have hstep : (one S).run ((copiesThen (.one S) p n).run next) c = some e := h
    obtain ⟨_, d, hx, ⟨x, rfl, hset⟩, h⟩ := run_sound _ _ _ _ hstep
    obtain ⟨u, d', hu, hlen, hover, h⟩ := ih h
    exact ⟨x :: u, d', hx.trans hu, by rw [List.length_cons, hlen], over_cons.2 ⟨hset, hover⟩, h⟩

/-- As `run_plus_greedy`, for a repetition with a least number of rounds. -/
theorem run_atLeast_greedy (hn : 0 < n) (hnext : ∀ d, (next d).isSome)
    (h : ((one S).atLeast true n).run next c = some e) :
    ∃ u d, c.Reads u d ∧ n ≤ u.length ∧ Over S u ∧ Stops S d.rest.head? ∧ next d = some e := by
  obtain ⟨n, rfl⟩ := Nat.exists_eq_add_of_lt hn
  obtain ⟨u, d, hu, hlen, hover, h⟩ := run_copiesThen_one h
  obtain ⟨v, d', hv, hne, hover', hstops, h⟩ := run_plus_greedy hnext h
  have := List.length_pos_iff.2 hne
  exact ⟨u ++ v, d', hu.trans hv, by rw [List.length_append]; omega, over_append.2 ⟨hover, hover'⟩, hstops, h⟩

/-- A match that ends with a greedy repetition stops where the repetition has to. -/
theorem matchAt_plus_greedy (front : List Pattern) {prev : Option Char} {text rest : List Char} {hit : Hit}
    (h : (seqs (front ++ [plus (one S) true])).matchAt prev text = some hit) (htext : text = hit.text ++ rest) :
    Stops S rest.head? := by
  obtain ⟨stop, hrun, htext', -⟩ := matchAt_eq_some h
  rw [run_seqs_append] at hrun
  obtain ⟨-, d, -, -, hrun⟩ := run_sound _ _ _ _ hrun
  obtain ⟨-, d', -, -, -, hstops, hd⟩ := run_plus_greedy (fun _ => rfl) hrun
  cases hd
  rwa [List.append_cancel_left (htext.symm.trans htext')]

theorem matchAt_atLeast_greedy (hn : 0 < n) {prev : Option Char} {text rest : List Char} {hit : Hit}
    (h : ((one S).atLeast true n).matchAt prev text = some hit) (htext : text = hit.text ++ rest) :
    Stops S rest.head? := by
  obtain ⟨stop, hrun, htext', -⟩ := matchAt_eq_some h
  obtain ⟨-, d, -, -, -, hstops, hd⟩ := run_atLeast_greedy hn (fun _ => rfl) hrun
  cases hd
  rwa [List.append_cancel_left (htext.symm.trans htext')]

theorem run_star_isSome (hnext : ∀ d, (next d).isSome) : (p.star true).run next c |>.isSome :=
  isSome_orElse.2 (.inr (hnext c))

end Periscope.Pattern
