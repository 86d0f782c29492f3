import Periscope.Pattern.Match

/-!
# Required characters

Sets of which every match reads a character. A text that has no character of such a set has no match, and
is cut without a search; `segments_eq` says that this shortcut changes nothing.
-/

namespace Periscope.Pattern

/-- Sets of which every match reads a character. -/
def required : Pattern → List CharSet
  | .empty => []
  | .one set => [set]
  | .assert _ => []
  | .seq p q => required p ++ required q
  | .alt _ _ => []
  | .plus p _ => required p
  | .group _ p => required p

/-- Whether a text has a character of each required set. -/
def mayOccurIn (p : Pattern) (text : List Char) : Bool :=
  p.required.all fun set => text.any set.contains

/-- Cuts a text at the leftmost matches of `p` that do not overlap. -/
def segments (p : Pattern) (text : List Char) : List Segment :=
  if p.mayOccurIn text then p.segmentsFrom none 0 false text else text.map .plain

/-! ## Where no continuation accepts -/

/-- Further rounds fail where every continuation fails. -/
theorem moreRounds_eq_none {body : Matcher} {greedy : Bool} {next : Cursor → Option Cursor}
    (hbody : ∀ next c, (∀ d : Cursor, d.rest <:+ c.rest → next d = none) → body next c = none)
    (bound : List Char) (c : Cursor) (hnext : ∀ d : Cursor, d.rest <:+ c.rest → next d = none) :
    moreRounds body greedy next bound c = none := by
  induction bound generalizing c with
  | nil => exact hnext c (List.suffix_refl _)
  | cons x bound ih =>
    have hagain : body (fun d => if c.pos < d.pos then moreRounds body greedy next bound d else none) c
        = none := by
      apply hbody
      intro d hd
      split
      · exact ih d fun e he => hnext e (he.trans hd)
      · rfl
    have hstop : next c = none := hnext c (List.suffix_refl _)
    cases greedy <;> simp [moreRounds, hagain, hstop]

/-- A pattern fails where every continuation fails. -/
theorem run_eq_none {p : Pattern} {next : Cursor → Option Cursor} {c : Cursor}
    (hnext : ∀ d : Cursor, d.rest <:+ c.rest → next d = none) : p.run next c = none := by
  induction p generalizing next c with
  | empty => exact hnext c (List.suffix_refl _)
  | one set =>
    rw [run]
    split
    · rfl
    · next x rest h =>
      split
      · exact hnext _ (h ▸ List.suffix_cons x rest)
      · rfl
  | assert a =>
    rw [run]
    split
    · exact hnext c (List.suffix_refl _)
    · rfl
  | seq p q ihp ihq =>
    exact ihp fun d hd => ihq fun e he => hnext e (he.trans hd)
  | alt p q ihp ihq => simp [run, ihp hnext, ihq hnext]
  | plus p greedy ih =>
    apply ih
    intro d hd
    split
    · exact moreRounds_eq_none (fun _ _ h => ih h) _ _ fun e he => hnext e (he.trans hd)
    · exact hnext d hd
  | group name p ih => exact ih fun d hd => hnext _ hd

/-! ## Texts without a required character -/

/-- A pattern fails on a text without a required character. -/
theorem run_eq_none_of_required {p : Pattern} {set : CharSet} (hset : set ∈ p.required)
    {next : Cursor → Option Cursor} {c : Cursor} (hc : ∀ x ∈ c.rest, set.contains x = false) :
    p.run next c = none := by
  induction p generalizing next c with
  | empty => simp [required] at hset
  | one other =>
    obtain rfl : set = other := by simpa [required] using hset
    rw [run]
    split
    · rfl
    · next x rest h => simp [hc x (by simp [h])]
  | assert a => simp [required] at hset
  | seq p q ihp ihq =>
    rcases List.mem_append.1 hset with h | h
    · exact ihp h hc
    · rw [run]
      exact run_eq_none fun d hd => ihq h fun x hx => hc x (hd.subset hx)
  | alt p q _ _ => simp [required] at hset
  | plus p greedy ih => exact ih hset hc
  | group name p ih => exact ih hset hc

/-- Nothing matches at a position behind which a required character is missing. -/
theorem matchAt_eq_none {p : Pattern} {set : CharSet} (hset : set ∈ p.required)
    (prev : Option Char) {rest : List Char} (hrest : ∀ x ∈ rest, set.contains x = false) :
    p.matchAt prev rest = none := by
  simp [matchAt, run_eq_none_of_required hset (c := ⟨prev, 0, rest, []⟩) hrest]

/-- A text without a required character is cut into its characters. -/
theorem segmentsFrom_eq_map {p : Pattern} {set : CharSet} (hset : set ∈ p.required)
    (prev : Option Char) (adjacent : Bool) {text : List Char}
    (htext : ∀ x ∈ text, set.contains x = false) :
    p.segmentsFrom prev 0 adjacent text = text.map .plain := by
  induction text generalizing prev adjacent with
  | nil => simp [segmentsFrom, matchAt_eq_none hset]
  | cons x text ih =>
    have hrest : ∀ y ∈ text, set.contains y = false := fun y hy => htext y (by simp [hy])
    simp [segmentsFrom, matchAt_eq_none hset prev htext, ih _ _ hrest]

/-- The search gives what the shortcut gives. -/
theorem segments_eq (p : Pattern) (text : List Char) :
    p.segments text = p.segmentsFrom none 0 false text := by
  rw [segments]
  split
  · rfl
  · next h =>
    obtain ⟨set, hset, htext⟩ : ∃ set ∈ p.required, ∀ x ∈ text, set.contains x = false := by
      simpa [mayOccurIn] using h
    exact (segmentsFrom_eq_map hset _ _ htext).symm

end Periscope.Pattern
