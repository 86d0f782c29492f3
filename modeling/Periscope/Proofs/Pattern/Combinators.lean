import Periscope.Proofs.Pattern.Language

/-!
# What the combinators describe

The texts of sequences, alternatives and repetitions, each in terms of its parts. A repetition of a character
set describes the texts over the set of the right length, wherever they stand.
-/

namespace Periscope.Pattern

/-- Every character of `w` is in the set. -/
def Over (S : CharSet) (w : List Char) : Prop := ∀ x ∈ w, S.contains x

instance (S : CharSet) (w : List Char) : Decidable (Over S w) :=
  decidable_of_iff (w.all S.contains) List.all_eq_true

variable {p q : Pattern} {ps qs : List Pattern} {S : CharSet} {greedy : Bool} {prev next : Option Char}
  {u v w : List Char} {n : Nat}

@[simp] theorem over_nil : Over S [] := by simp [Over]

@[simp] theorem over_cons {x : Char} : Over S (x :: w) ↔ S.contains x ∧ Over S w := by simp [Over]

theorem Over.not_mem {x : Char} (h : Over S w) (hx : S.contains x = false) : x ∉ w :=
  fun hmem => by simp [h x hmem] at hx

@[simp] theorem over_append : Over S (u ++ v) ↔ Over S u ∧ Over S v := by
  simp [Over, or_imp, forall_and]

/-! ## Sequences and alternatives -/

@[simp] theorem accepts_seqs_nil : (seqs []).Accepts prev w next ↔ w = [] := Iff.rfl

theorem accepts_seqs_cons : (seqs (p :: ps)).Accepts prev w next ↔
    ∃ u v, w = u ++ v ∧ p.Accepts prev u (v.head?.or next) ∧ (seqs ps).Accepts (u.getLast?.or prev) v next := by
  cases ps with
  | nil =>
    constructor
    · exact fun h => ⟨w, [], (List.append_nil w).symm, h, rfl⟩
    · rintro ⟨u, v, rfl, h, rfl⟩
      rwa [List.append_nil]
  | cons q ps => exact Iff.rfl

theorem accepts_seqs_append : (seqs (ps ++ qs)).Accepts prev w next ↔
    ∃ u v, w = u ++ v ∧ (seqs ps).Accepts prev u (v.head?.or next) ∧
      (seqs qs).Accepts (u.getLast?.or prev) v next := by
  induction ps generalizing prev w with
  | nil =>
    constructor
    · exact fun h => ⟨[], w, rfl, rfl, h⟩
    · rintro ⟨_, v, rfl, rfl, h⟩
      exact h
  | cons p ps ih =>
    simp only [List.cons_append, accepts_seqs_cons, ih]
    constructor
    · rintro ⟨u, _, rfl, hp, v, w, rfl, hps, hqs⟩
      refine ⟨u ++ v, w, (List.append_assoc ..).symm, ⟨u, v, rfl, ?_, hps⟩, ?_⟩
      · rwa [List.head?_append, Option.or_assoc] at hp
      · rwa [List.getLast?_append, Option.or_assoc]
    · rintro ⟨_, w, rfl, ⟨u, v, rfl, hp, hps⟩, hqs⟩
      refine ⟨u, v ++ w, List.append_assoc .., ?_, v, w, rfl, hps, ?_⟩
      · rwa [List.head?_append, Option.or_assoc]
      · rwa [List.getLast?_append, Option.or_assoc] at hqs

theorem accepts_one_seqs : (seqs (.one S :: ps)).Accepts prev w next ↔
    ∃ x v, w = x :: v ∧ S.contains x ∧ (seqs ps).Accepts (some x) v next := by
  rw [accepts_seqs_cons]
  constructor
  · rintro ⟨_, v, rfl, ⟨x, rfl, hx⟩, h⟩
    exact ⟨x, v, rfl, hx, h⟩
  · rintro ⟨x, v, rfl, hx, h⟩
    exact ⟨[x], v, rfl, ⟨x, rfl, hx⟩, h⟩

theorem accepts_assert_seqs {a : Assertion} : (seqs (.assert a :: ps)).Accepts prev w next ↔
    a.isTrue prev (w.head?.or next) ∧ (seqs ps).Accepts prev w next := by
  rw [accepts_seqs_cons]
  constructor
  · rintro ⟨_, v, rfl, ⟨rfl, ha⟩, h⟩
    exact ⟨ha, h⟩
  · exact fun ⟨ha, h⟩ => ⟨[], w, rfl, ⟨rfl, ha⟩, h⟩

theorem contains_single {x c : Char} : (CharSet.single c).contains x ↔ x = c := by
  simp only [CharSet.single, CharSet.contains, Bool.and_eq_true, decide_eq_true_eq]
  exact ⟨fun ⟨h₁, h₂⟩ => Char.le_antisymm h₂ h₁, fun h => h ▸ ⟨Char.le_refl _, Char.le_refl _⟩⟩

theorem accepts_single_seqs {c : Char} : (seqs (.one (.single c) :: ps)).Accepts prev w next ↔
    ∃ v, w = c :: v ∧ (seqs ps).Accepts (some c) v next := by
  rw [accepts_one_seqs]
  constructor
  · rintro ⟨x, v, rfl, hx, h⟩
    obtain rfl := contains_single.1 hx
    exact ⟨v, rfl, h⟩
  · exact fun ⟨v, hw, h⟩ => ⟨c, v, hw, contains_single.2 rfl, h⟩

/-- A sequence that begins with the characters of a text. -/
theorem accepts_chars_seqs {cs : List Char} :
    (seqs (cs.map (fun c => .one (.single c)) ++ ps)).Accepts prev w next ↔
      ∃ v, w = cs ++ v ∧ (seqs ps).Accepts (cs.getLast?.or prev) v next := by
  induction cs generalizing prev w with
  | nil => simp
  | cons c cs ih =>
    rw [List.map_cons, List.cons_append, accepts_single_seqs]
    simp only [ih]
    constructor
    · rintro ⟨_, rfl, v, rfl, h⟩
      exact ⟨v, rfl, by rwa [List.getLast?_cons, Option.some_or, ← Option.or_some]⟩
    · rintro ⟨v, rfl, h⟩
      exact ⟨cs ++ v, rfl, v, rfl, by rwa [List.getLast?_cons, Option.some_or, ← Option.or_some] at h⟩

theorem accepts_literal {text : String} : (literal text).Accepts prev w next ↔ w = text.toList := by
  have h : (seqs (text.toList.map (fun c => .one (.single c)) ++ [])).Accepts prev w next ↔ _ := accepts_chars_seqs
  simpa [literal] using h

theorem accepts_alt : (alt p q).Accepts prev w next ↔ p.Accepts prev w next ∨ q.Accepts prev w next := Iff.rfl

theorem accepts_opt : (p.opt greedy).Accepts prev w next ↔ w = [] ∨ p.Accepts prev w next := by
  cases greedy
  · exact Iff.rfl
  · exact or_comm

/-! ## Repetitions of a character set -/

theorem rounds_one : Rounds (one S).Accepts prev w next ↔ Over S w := by
  constructor
  · intro h
    induction h with
    | done => exact over_nil
    | more _ hx _ ih =>
      obtain ⟨x, rfl, hx⟩ := hx
      exact over_append.2 ⟨by simpa using hx, ih⟩
  · intro h
    induction w generalizing prev with
    | nil => exact .done
    | cons x w ih =>
      obtain ⟨hx, hw⟩ := over_cons.1 h
      exact .more (u := [x]) (List.cons_ne_nil _ _) ⟨x, rfl, hx⟩ (ih hw)

theorem accepts_plus_one : (plus (.one S) greedy).Accepts prev w next ↔ w ≠ [] ∧ Over S w := by
  constructor
  · rintro ⟨_, v, rfl, ⟨x, rfl, hx⟩, ⟨h, -⟩ | ⟨-, h⟩⟩
    · exact absurd h (List.cons_ne_nil _ _)
    · exact ⟨List.cons_ne_nil _ _, over_cons.2 ⟨hx, rounds_one.1 h⟩⟩
  · rintro ⟨hw, h⟩
    cases w with
    | nil => exact absurd rfl hw
    | cons x w =>
      obtain ⟨hx, hw⟩ := over_cons.1 h
      exact ⟨[x], w, rfl, ⟨x, rfl, hx⟩, .inr ⟨List.cons_ne_nil _ _, rounds_one.2 hw⟩⟩

theorem accepts_plus_seqs : (seqs (plus (.one S) greedy :: ps)).Accepts prev w next ↔
    ∃ u v, w = u ++ v ∧ (u ≠ [] ∧ Over S u) ∧ (seqs ps).Accepts (u.getLast?.or prev) v next := by
  simp only [accepts_seqs_cons, accepts_plus_one]

theorem accepts_star_one : ((one S).star greedy).Accepts prev w next ↔ Over S w := by
  rw [star, accepts_opt, accepts_plus_one]
  cases w <;> simp

theorem accepts_star_seqs : (seqs ((one S).star greedy :: ps)).Accepts prev w next ↔
    ∃ u v, w = u ++ v ∧ Over S u ∧ (seqs ps).Accepts (u.getLast?.or prev) v next := by
  simp only [accepts_seqs_cons, accepts_star_one]

theorem accepts_copiesThen_one : (copiesThen (.one S) p n).Accepts prev w next ↔
    ∃ u v, w = u ++ v ∧ u.length = n ∧ Over S u ∧ p.Accepts (u.getLast?.or prev) v next := by
  induction n generalizing prev w with
  | zero =>
    constructor
    · exact fun h => ⟨[], w, rfl, rfl, over_nil, h⟩
    · rintro ⟨u, v, rfl, hlen, -, h⟩
      obtain rfl := List.length_eq_zero_iff.1 hlen
      exact h
  | succ n ih =>
    rw [show copiesThen (.one S) p (n + 1) = seqs [.one S, copiesThen (.one S) p n] from rfl, accepts_one_seqs]
    simp only [show seqs [copiesThen (.one S) p n] = copiesThen (.one S) p n from rfl, ih]
    constructor
    · rintro ⟨x, _, rfl, hx, u, v, rfl, hlen, hu, hp⟩
      refine ⟨x :: u, v, rfl, by rw [List.length_cons, hlen], over_cons.2 ⟨hx, hu⟩, ?_⟩
      rwa [List.getLast?_cons, Option.some_or, ← Option.or_some]
    · rintro ⟨u, v, rfl, hlen, hu, hp⟩
      cases u with
      | nil => simp at hlen
      | cons x u =>
        obtain ⟨hx, hu⟩ := over_cons.1 hu
        refine ⟨x, u ++ v, rfl, hx, u, v, rfl, Nat.succ.inj hlen, hu, ?_⟩
        rwa [List.getLast?_cons, Option.some_or, ← Option.or_some] at hp

theorem accepts_atLeast_one : ((one S).atLeast greedy n).Accepts prev w next ↔ n ≤ w.length ∧ Over S w := by
  cases n with
  | zero => simp [atLeast, accepts_star_one]
  | succ n =>
    rw [atLeast, accepts_copiesThen_one]
    constructor
    · rintro ⟨u, v, rfl, hlen, hu, hv⟩
      obtain ⟨hne, hv⟩ := accepts_plus_one.1 hv
      have := List.length_pos_iff.2 hne
      exact ⟨by rw [List.length_append]; omega, over_append.2 ⟨hu, hv⟩⟩
    · rintro ⟨hlen, hw⟩
      refine ⟨w.take n, w.drop n, (List.take_append_drop n w).symm, List.length_take_of_le (by omega), ?_, ?_⟩
      · exact fun x hx => hw x (List.mem_of_mem_take hx)
      · refine accepts_plus_one.2 ⟨?_, fun x hx => hw x (List.mem_of_mem_drop hx)⟩
        intro h
        have := List.drop_eq_nil_iff.1 h
        omega

theorem accepts_atLeast_seqs : (seqs ((one S).atLeast greedy n :: ps)).Accepts prev w next ↔
    ∃ u v, w = u ++ v ∧ (n ≤ u.length ∧ Over S u) ∧ (seqs ps).Accepts (u.getLast?.or prev) v next := by
  simp only [accepts_seqs_cons, accepts_atLeast_one]

theorem accepts_exactly_one : ((one S).exactly n).Accepts prev w next ↔ w.length = n ∧ Over S w := by
  cases n with
  | zero => simp +contextual [exactly, Accepts, List.length_eq_zero_iff]
  | succ n =>
    rw [exactly, accepts_copiesThen_one]
    constructor
    · rintro ⟨u, _, rfl, hlen, hu, x, rfl, hx⟩
      exact ⟨by simp [hlen], over_append.2 ⟨hu, by simpa using hx⟩⟩
    · rintro ⟨hlen, hw⟩
      have hne : w ≠ [] := List.length_pos_iff.1 (by omega)
      refine ⟨w.dropLast, [w.getLast hne], (List.dropLast_concat_getLast hne).symm, by simp [hlen], ?_, ?_⟩
      · exact fun x hx => hw x (List.dropLast_subset w hx)
      · exact ⟨_, rfl, hw _ (List.getLast_mem hne)⟩

/-! ## Edges of words -/

/-- Whether a word character stands there. -/
def IsWordAt (c : Option Char) : Prop := c.any Text.isWord

instance (c : Option Char) : Decidable (IsWordAt c) := inferInstanceAs (Decidable (c.any Text.isWord = true))

@[simp] theorem isWordAt_none : ¬IsWordAt none := nofun

@[simp] theorem isWordAt_some {x : Char} : IsWordAt (some x) ↔ Text.isWord x := Iff.rfl

theorem isTrue_boundary : (Assertion.edge .boundary .word).isTrue prev next ↔ ¬(IsWordAt prev ↔ IsWordAt next) := by
  have h : (Assertion.edge .boundary .word).isTrue prev next = (prev.any Text.isWord != next.any Text.isWord) := by
    cases prev <;> cases next <;> rfl
  rw [h, IsWordAt, IsWordAt, bne_iff_ne, ne_eq, ← Bool.eq_iff_iff]

end Periscope.Pattern
