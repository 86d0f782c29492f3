import Periscope.Pattern.Required

/-!
# The language of a pattern

Which texts a pattern describes, said without the order in which the matcher tries them. A text is accepted
between two characters, since an assertion looks at what stands around it. Main results: `run_sound` and
`run_complete`, by which the matcher finds an end exactly where the pattern accepts what is read, and
`matchAt_isSome_iff`.
-/

namespace Periscope

/-- Every group closed so far lies before the position. -/
def Cursor.Placed (c : Cursor) : Prop := ∀ g ∈ c.groups, g.2.1 ≤ g.2.2 ∧ g.2.2 ≤ c.pos

/-- From `c` to `d` the text `w` has been read. -/
structure Cursor.Reads (c : Cursor) (w : List Char) (d : Cursor) : Prop where
  rest : c.rest = w ++ d.rest
  pos : d.pos = c.pos + w.length
  prev : d.prev = w.getLast?.or c.prev
  placed : c.Placed → d.Placed

namespace Cursor.Reads

variable {c d e : Cursor} {u v w : List Char}

theorem refl (c : Cursor) : c.Reads [] c := ⟨rfl, rfl, rfl, id⟩

theorem trans (h₁ : c.Reads u d) (h₂ : d.Reads v e) : c.Reads (u ++ v) e where
  rest := by rw [h₁.rest, h₂.rest, List.append_assoc]
  pos := by rw [h₂.pos, h₁.pos, List.length_append, Nat.add_assoc]
  prev := by rw [h₂.prev, h₁.prev, List.getLast?_append, Option.or_assoc]
  placed := h₂.placed ∘ h₁.placed

theorem one {x : Char} {rest : List Char} (h : c.rest = x :: rest) :
    c.Reads [x] ⟨some x, c.pos + 1, rest, c.groups⟩ where
  rest := h
  pos := rfl
  prev := rfl
  placed := fun hc g hg => ⟨(hc g hg).1, Nat.le_succ_of_le (hc g hg).2⟩

theorem group (name : String) (h : c.Reads w d) :
    c.Reads w { d with groups := (name, c.pos, d.pos) :: d.groups } where
  rest := h.rest
  pos := h.pos
  prev := h.prev
  placed := by
    intro hc g hg
    rcases List.mem_cons.1 hg with rfl | hg
    · exact ⟨h.pos ▸ Nat.le_add_right .., Nat.le_refl _⟩
    · exact h.placed hc g hg

theorem head? (h : c.Reads w d) : c.rest.head? = w.head?.or d.rest.head? := by
  rw [h.rest, List.head?_append]

theorem pos_lt_iff (h : c.Reads w d) : c.pos < d.pos ↔ w ≠ [] := by
  rw [h.pos, ← List.length_pos_iff]
  omega

end Cursor.Reads

namespace Pattern

/-- Rounds that each read something, one behind the other; `A` says what a round may read. -/
inductive Rounds (A : Option Char → List Char → Option Char → Prop) :
    Option Char → List Char → Option Char → Prop where
  | done {prev next} : Rounds A prev [] next
  | more {prev u v next} : u ≠ [] → A prev u (v.head?.or next) →
      Rounds A (u.getLast?.or prev) v next → Rounds A prev (u ++ v) next

/-- The texts that a pattern describes between the characters `prev` and `next`. -/
def Accepts : Pattern → Option Char → List Char → Option Char → Prop
  | .empty, _, w, _ => w = []
  | .one set, _, w, _ => ∃ x, w = [x] ∧ set.contains x
  | .assert a, prev, w, next => w = [] ∧ a.isTrue prev next
  | .seq p q, prev, w, next =>
    ∃ u v, w = u ++ v ∧ p.Accepts prev u (v.head?.or next) ∧ q.Accepts (u.getLast?.or prev) v next
  | .alt p q, prev, w, next => p.Accepts prev w next ∨ q.Accepts prev w next
  | .plus p _, prev, w, next =>
    ∃ u v, w = u ++ v ∧ p.Accepts prev u (v.head?.or next) ∧
      (u = [] ∧ v = [] ∨ u ≠ [] ∧ Rounds p.Accepts (u.getLast?.or prev) v next)
  | .group _ p, prev, w, next => p.Accepts prev w next

variable {p q : Pattern} {next : Cursor → Option Cursor} {c e : Cursor}

theorem orElse_eq_some {α : Type} {a : Option α} {b : Unit → Option α} {x : α} :
    a.orElse b = some x ↔ a = some x ∨ a = none ∧ b () = some x := by
  cases a <;> simp

theorem isSome_orElse {α : Type} {a : Option α} {b : Unit → Option α} :
    (a.orElse b).isSome ↔ a.isSome ∨ (b ()).isSome := by
  cases a <;> simp

/-! ## Soundness of the matcher -/

/-- What a matcher reads is described by `A`. -/
def Sound (m : Matcher) (A : Option Char → List Char → Option Char → Prop) : Prop :=
  ∀ next c e, m next c = some e →
    ∃ w d, c.Reads w d ∧ A c.prev w d.rest.head? ∧ next d = some e

theorem moreRounds_sound {body : Matcher} {A : Option Char → List Char → Option Char → Prop} {greedy : Bool}
    (hbody : Sound body A) (bound : List Char) : Sound (fun next => moreRounds body greedy next bound) (Rounds A) := by
  induction bound with
  | nil => exact fun next c e h => ⟨[], c, .refl c, .done, h⟩
  | cons x bound ih =>
    intro next c e h
    have hagain : ∀ e, body (fun d => if c.pos < d.pos then moreRounds body greedy next bound d else none) c
        = some e → ∃ w d, c.Reads w d ∧ Rounds A c.prev w d.rest.head? ∧ next d = some e := by
      intro e h
      obtain ⟨u, d, hu, hA, h⟩ := hbody _ _ _ h
      split at h
      · next hlt =>
        obtain ⟨v, d', hv, hrounds, h⟩ := ih _ _ _ h
        rw [hu.prev] at hrounds
        rw [hv.head?] at hA
        exact ⟨u ++ v, d', hu.trans hv, .more (hu.pos_lt_iff.1 hlt) hA hrounds, h⟩
      · cases h
    have hstop : next c = some e → ∃ w d, c.Reads w d ∧ Rounds A c.prev w d.rest.head? ∧ next d = some e :=
      fun h => ⟨[], c, .refl c, .done, h⟩
    cases greedy
    · rcases orElse_eq_some.1 h with h | ⟨-, h⟩
      · exact hstop h
      · exact hagain e h
    · rcases orElse_eq_some.1 h with h | ⟨-, h⟩
      · exact hagain e h
      · exact hstop h

/-- A pattern accepts what its matcher reads. -/
theorem run_sound (p : Pattern) : Sound p.run p.Accepts := by
  induction p with
  | empty => exact fun next c e h => ⟨[], c, .refl c, rfl, h⟩
  | one set =>
    intro next c e h
    rw [run] at h
    split at h
    · cases h
    · next x rest hrest =>
      split at h
      · next hx => exact ⟨[x], _, .one hrest, ⟨x, rfl, hx⟩, h⟩
      · cases h
  | assert a =>
    intro next c e h
    rw [run] at h
    split at h
    · next ha => exact ⟨[], c, .refl c, ⟨rfl, ha⟩, h⟩
    · cases h
  | seq p q ihp ihq =>
    intro next c e h
    obtain ⟨u, d, hu, hp, h⟩ := ihp _ _ _ h
    obtain ⟨v, d', hv, hq, h⟩ := ihq _ _ _ h
    rw [hv.head?] at hp
    rw [hu.prev] at hq
    exact ⟨u ++ v, d', hu.trans hv, ⟨u, v, rfl, hp, hq⟩, h⟩
  | alt p q ihp ihq =>
    intro next c e h
    rcases orElse_eq_some.1 h with h | ⟨-, h⟩
    · obtain ⟨w, d, hw, hp, h⟩ := ihp _ _ _ h
      exact ⟨w, d, hw, .inl hp, h⟩
    · obtain ⟨w, d, hw, hq, h⟩ := ihq _ _ _ h
      exact ⟨w, d, hw, .inr hq, h⟩
  | plus p greedy ih =>
    intro next c e h
    obtain ⟨u, d, hu, hp, h⟩ := ih _ _ _ h
    split at h
    · next hlt =>
      obtain ⟨v, d', hv, hrounds, h⟩ := moreRounds_sound ih _ _ _ _ h
      rw [hv.head?] at hp
      rw [hu.prev] at hrounds
      exact ⟨u ++ v, d', hu.trans hv, ⟨u, v, rfl, hp, .inr ⟨hu.pos_lt_iff.1 hlt, hrounds⟩⟩, h⟩
    · next hlt =>
      obtain rfl : u = [] := by simpa using mt hu.pos_lt_iff.2 hlt
      exact ⟨[], d, hu, ⟨[], [], rfl, hp, .inl ⟨rfl, rfl⟩⟩, h⟩
  | group name p ih =>
    intro next c e h
    obtain ⟨w, d, hw, hp, h⟩ := ih _ _ _ h
    exact ⟨w, _, hw.group name, hp, h⟩

/-! ## Completeness of the matcher -/

/-- A matcher reaches some end wherever it can read what `A` describes and go on behind it. -/
def Complete (m : Matcher) (A : Option Char → List Char → Option Char → Prop) : Prop :=
  ∀ next c w rest, c.rest = w ++ rest → A c.prev w rest.head? →
    (∀ d, c.Reads w d → (next d).isSome) → (m next c).isSome

theorem moreRounds_complete {body : Matcher} {A : Option Char → List Char → Option Char → Prop} {greedy : Bool}
    (hbody : Complete body A) {w rest : List Char} {prev : Option Char} (hw : Rounds A prev w rest.head?) :
    ∀ (bound : List Char) (c : Cursor), c.prev = prev → c.rest = w ++ rest → w.length ≤ bound.length →
      (∀ d, c.Reads w d → (next d).isSome) → (moreRounds body greedy next bound c).isSome := by
  generalize hhead : rest.head? = head at hw
  induction hw with
  | done =>
    intro bound c _ _ _ hnext
    have hstop := hnext c (.refl c)
    cases bound with
    | nil => exact hstop
    | cons x bound => cases greedy <;> simp [moreRounds, hstop]
  | @more prev u v head hu hA hrounds ih =>
    subst hhead
    intro bound c hprev hrest hlen hnext
    cases bound with
    | nil => simp [hu] at hlen
    | cons x bound =>
      have hagain : (body (fun d => if c.pos < d.pos then moreRounds body greedy next bound d else none)
          c).isSome := by
        refine hbody _ _ u (v ++ rest) (by rw [hrest, List.append_assoc]) ?_ fun d hd => ?_
        · rw [hprev, List.head?_append]
          exact hA
        · rw [if_pos (hd.pos_lt_iff.2 hu)]
          refine ih rfl bound d (by rw [hd.prev, hprev]) ?_ ?_ fun d' hd' => hnext d' (hd.trans hd')
          · have hd' := hd.rest
            rw [hrest, List.append_assoc] at hd'
            exact (List.append_cancel_left hd').symm
          · have := List.length_pos_iff.2 hu
            simp only [List.length_append, List.length_cons] at hlen
            omega
      cases greedy <;> simp [moreRounds, hagain]

/-- The matcher of a pattern reaches an end behind whatever the pattern accepts. -/
theorem run_complete (p : Pattern) : Complete p.run p.Accepts := by
  induction p with
  | empty =>
    rintro next c _ rest - rfl hnext
    exact hnext c (.refl c)
  | one set =>
    rintro next c _ rest hrest ⟨x, rfl, hx⟩ hnext
    simp only [List.cons_append, List.nil_append] at hrest
    simp only [run, hrest, hx, ↓reduceIte]
    exact hnext _ (.one hrest)
  | assert a =>
    rintro next c _ rest hrest ⟨rfl, ha⟩ hnext
    rw [List.nil_append] at hrest
    simp only [run, hrest, ha, ↓reduceIte]
    exact hnext c (.refl c)
  | seq p q ihp ihq =>
    rintro next c _ rest hrest ⟨u, v, rfl, hp, hq⟩ hnext
    refine ihp _ _ u (v ++ rest) (by rw [hrest, List.append_assoc]) (by rwa [List.head?_append]) fun d hd => ?_
    have hd' := hd.rest
    rw [hrest, List.append_assoc] at hd'
    refine ihq _ _ v rest (List.append_cancel_left hd').symm (by rwa [hd.prev]) fun d' hd' => ?_
    exact hnext d' (hd.trans hd')
  | alt p q ihp ihq =>
    rintro next c w rest hrest (h | h) hnext
    · exact isSome_orElse.2 (.inl (ihp _ _ _ _ hrest h hnext))
    · exact isSome_orElse.2 (.inr (ihq _ _ _ _ hrest h hnext))
  | plus p greedy ih =>
    rintro next c _ rest hrest ⟨u, v, rfl, hp, hrounds⟩ hnext
    refine ih _ _ u (v ++ rest) (by rw [hrest, List.append_assoc]) (by rwa [List.head?_append]) fun d hd => ?_
    have hd' := hd.rest
    rw [hrest, List.append_assoc] at hd'
    have hv := (List.append_cancel_left hd').symm
    rcases hrounds with ⟨rfl, rfl⟩ | ⟨hu, hrounds⟩
    · rw [if_neg (mt hd.pos_lt_iff.1 (by simp))]
      exact hnext d hd
    · rw [if_pos (hd.pos_lt_iff.2 hu)]
      refine moreRounds_complete ih hrounds d.rest d hd.prev hv ?_ fun d' hd' => hnext d' (hd.trans hd')
      rw [hv, List.length_append]
      omega
  | group name p ih =>
    rintro next c w rest hrest h hnext
    exact ih _ _ w rest hrest h fun d hd => hnext _ (hd.group name)

/-! ## Matches -/

/-- A match is an end that the matcher reaches. -/
theorem matchAt_eq_some {prev : Option Char} {text : List Char} {hit : Hit} (h : p.matchAt prev text = some hit) :
    ∃ stop, p.run some ⟨prev, 0, text, []⟩ = some stop ∧ text = hit.text ++ stop.rest ∧
      hit.groups = stop.groups ∧ p.Accepts prev hit.text stop.rest.head? := by
  obtain ⟨stop, hrun, rfl⟩ := Option.map_eq_some_iff.1 h
  obtain ⟨w, d, hreads, haccepts, hd⟩ := run_sound p _ _ _ hrun
  cases hd
  have hpos : stop.pos = w.length := by rw [hreads.pos, Nat.zero_add]
  have htext : text = w ++ stop.rest := hreads.rest
  refine ⟨stop, hrun, ?_, rfl, ?_⟩ <;> simp only [hpos, htext, List.take_left]
  exact haccepts

/-- The groups of a match lie in its text. -/
theorem matchAt_placed {prev : Option Char} {text : List Char} {hit : Hit} (h : p.matchAt prev text = some hit) :
    ∀ g ∈ hit.groups, g.2.1 ≤ g.2.2 ∧ g.2.2 ≤ hit.text.length := by
  obtain ⟨stop, hrun, rfl⟩ := Option.map_eq_some_iff.1 h
  obtain ⟨w, d, hreads, -, hd⟩ := run_sound p _ _ _ hrun
  cases hd
  have hlen : stop.pos = (text.take stop.pos).length := by
    have hrest : text = w ++ stop.rest := hreads.rest
    rw [hreads.pos, Nat.zero_add, hrest, List.take_left]
  intro g hg
  have := hreads.placed (by simp [Cursor.Placed]) g hg
  exact ⟨this.1, hlen ▸ this.2⟩

/-- A pattern matches where it accepts some text that follows. -/
theorem matchAt_isSome_iff {prev : Option Char} {text : List Char} :
    (p.matchAt prev text).isSome ↔ ∃ w rest, text = w ++ rest ∧ p.Accepts prev w rest.head? := by
  constructor
  · intro h
    obtain ⟨hit, h⟩ := Option.isSome_iff_exists.1 h
    obtain ⟨stop, -, htext, -, haccepts⟩ := matchAt_eq_some h
    exact ⟨hit.text, stop.rest, htext, haccepts⟩
  · rintro ⟨w, rest, rfl, haccepts⟩
    have := run_complete p some ⟨prev, 0, w ++ rest, []⟩ w rest rfl haccepts fun _ _ => rfl
    simpa [matchAt] using this

/-- Where no match is found the pattern accepts nothing, unless it accepts the empty text. -/
theorem not_accepts_of_matchAt {prev : Option Char} {w rest : List Char}
    (h : ∀ hit, p.matchAt prev (w ++ rest) = some hit → hit.text = [])
    (hne : ∀ {prev w next}, p.Accepts prev w next → w ≠ []) : ¬p.Accepts prev w rest.head? := by
  intro haccepts
  obtain ⟨hit, hmatch⟩ := Option.isSome_iff_exists.1 (matchAt_isSome_iff.2 ⟨w, rest, rfl, haccepts⟩)
  obtain ⟨stop, -, -, -, hhit⟩ := matchAt_eq_some hmatch
  exact hne hhit (h hit hmatch)

/-- Somewhere in the text the pattern matches. -/
def OccursIn (p : Pattern) (text : List Char) : Prop :=
  ∃ before after, text = before ++ after ∧ (p.matchAt before.getLast? after).isSome

/-- A pattern occurs where it accepts a stretch of the text. -/
theorem occursIn_iff {text : List Char} :
    p.OccursIn text ↔ ∃ a w b, text = a ++ (w ++ b) ∧ p.Accepts a.getLast? w b.head? := by
  simp only [OccursIn, matchAt_isSome_iff]
  constructor
  · rintro ⟨a, _, rfl, w, b, rfl, h⟩
    exact ⟨a, w, b, rfl, h⟩
  · rintro ⟨a, w, b, rfl, h⟩
    exact ⟨a, w ++ b, rfl, w, b, rfl, h⟩

end Pattern

end Periscope
