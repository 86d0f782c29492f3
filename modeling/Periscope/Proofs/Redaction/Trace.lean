import Periscope.Proofs.Pattern.Cuts
import Periscope.Redaction.Rule

/-!
# The trace of a rule

What a content rule does to a text, as a list of atoms: the characters that it keeps and the stretches that it
hides. The atoms fall into tiles, one for each step of the search. A stretch of the result that cannot be a part
of a marker consists of kept characters, so it stands in the text as well (`locate`).
-/

namespace Periscope.Redaction

open Pattern

/-- A character that is kept or a stretch that is hidden. -/
inductive Atom where
  | kept (c : Char)
  | hidden (secret : List Char)

namespace Atom

/-- The text of the atom. -/
def text : Atom → List Char
  | .kept c => [c]
  | .hidden secret => secret

/-- The atom as it is shown. -/
def shown : Atom → List Char
  | .kept c => [c]
  | .hidden _ => marker.toList

/-- Whether the atom is hidden. -/
def isHidden : Atom → Bool
  | .kept _ => false
  | .hidden _ => true

end Atom

/-- The text that the atoms stand for. -/
def textOf (as : List Atom) : List Char := as.flatMap Atom.text

/-- The text that the atoms show. -/
def shownOf (as : List Atom) : List Char := as.flatMap Atom.shown

variable {as as₁ as₂ : List Atom} {c : Char} {u v w secret : List Char}

@[simp] theorem textOf_nil : textOf [] = [] := rfl
@[simp] theorem shownOf_nil : shownOf [] = [] := rfl

@[simp] theorem textOf_kept : textOf (.kept c :: as) = c :: textOf as := rfl
@[simp] theorem shownOf_kept : shownOf (.kept c :: as) = c :: shownOf as := rfl

@[simp] theorem textOf_hidden : textOf (.hidden secret :: as) = secret ++ textOf as := rfl
@[simp] theorem shownOf_hidden : shownOf (.hidden secret :: as) = marker.toList ++ shownOf as := rfl

@[simp] theorem textOf_append : textOf (as₁ ++ as₂) = textOf as₁ ++ textOf as₂ := List.flatMap_append
@[simp] theorem shownOf_append : shownOf (as₁ ++ as₂) = shownOf as₁ ++ shownOf as₂ := List.flatMap_append

@[simp] theorem textOf_map_kept : textOf (w.map .kept) = w := by induction w <;> simp_all
@[simp] theorem shownOf_map_kept : shownOf (w.map .kept) = w := by induction w <;> simp_all

/-! ## Atoms of a rule -/

/-- The atoms of a piece. -/
def Piece.atoms : Piece → List Atom
  | .kept text => text.map .kept
  | .hidden text => [.hidden text]

namespace ContentRule

variable {rule : ContentRule} {prev : Option Char} {text rest front back : List Char} {hit : Hit}

/-- The atoms of a text. -/
def atoms (rule : ContentRule) (text : List Char) : List Atom := (rule.pieces text).flatMap Piece.atoms

theorem shownOf_atoms (rule : ContentRule) (text : List Char) : shownOf (rule.atoms text) = rule.apply text := by
  have h : ∀ piece : Piece, shownOf piece.atoms = piece.shown := by
    intro piece
    cases piece <;> simp [Piece.atoms, Piece.shown]
  simp only [atoms, apply, shownOf, List.flatMap_assoc]
  exact congrArg (fun f => List.flatMap f _) (funext h)

theorem hitCount_eq : rule.hitCount text = (rule.atoms text).countP Atom.isHidden := by
  have h : ∀ piece : Piece, piece.atoms.countP Atom.isHidden = if piece.isHidden then 1 else 0 := by
    intro piece
    cases piece with
    | kept text => simp [Piece.atoms, Piece.isHidden, List.countP_eq_zero, Atom.isHidden]
    | hidden text => rfl
  rw [hitCount, atoms]
  induction rule.pieces text with
  | nil => rfl
  | cons piece pieces ih => simp [List.countP_cons, h, ih, Nat.add_comm]

theorem hitCount_eq_zero (h : ∀ as₁ secret as₂, rule.atoms text ≠ as₁ ++ .hidden secret :: as₂) :
    rule.hitCount text = 0 := by
  rw [hitCount_eq, List.countP_eq_zero]
  intro atom hmem
  cases atom with
  | kept c => exact Bool.false_ne_true
  | hidden secret =>
    obtain ⟨as₁, as₂, has⟩ := List.append_of_mem hmem
    exact absurd has (h as₁ secret as₂)

/-! ## Tiles -/

/-- The rule would hide `secret` in the match, between `front` and `back`. -/
structure Aims (rule : ContentRule) (hit : Hit) (front secret back : List Char) : Prop where
  text : hit.text = front ++ (secret ++ back)
  target : rule.target hit = some (front.length, front.length + secret.length)

/-- The atoms of one step of the search, where `rest` stands behind them. -/
inductive Tile (rule : ContentRule) (prev : Option Char) (rest : List Char) : List Atom → Prop where
  | plain {c : Char} : (∀ hit, rule.pattern.matchAt prev (c :: rest) = some hit → hit.text = []) →
      Tile rule prev rest [.kept c]
  | vetoed {hit : Hit} : rule.pattern.matchAt prev (hit.text ++ rest) = some hit →
      (∀ front secret back, rule.Aims hit front secret back →
        secret = marker.toList ∨ rule.accepts secret = false) →
      Tile rule prev rest (hit.text.map .kept)
  | swapped {hit : Hit} {front secret back : List Char} : rule.pattern.matchAt prev (hit.text ++ rest) = some hit →
      rule.Aims hit front secret back → secret ≠ marker.toList → rule.accepts secret →
      Tile rule prev rest (front.map .kept ++ .hidden secret :: back.map .kept)

/-- Tiles one behind the other, for the whole text. -/
inductive Tiled (rule : ContentRule) : Option Char → List Char → List Atom → Prop where
  | nil {prev : Option Char} : Tiled rule prev [] []
  | cons {prev : Option Char} {rest : List Char} {tile as : List Atom} : Tile rule prev rest tile →
      Tiled rule ((textOf tile).getLast?.or prev) rest as → Tiled rule prev (textOf tile ++ rest) (tile ++ as)

theorem Tiled.textOf_eq (h : Tiled rule prev text as) : textOf as = text := by
  induction h with
  | nil => rfl
  | cons _ _ ih => rw [textOf_append, ih]

/-- What a rule aims at lies in the match. -/
theorem exists_aims (h : rule.pattern.matchAt prev text = some hit) {start stop : Nat}
    (htarget : rule.target hit = some (start, stop)) :
    ∃ front secret back, rule.Aims hit front secret back ∧ start = front.length ∧
      stop = front.length + secret.length := by
  have hplaced : start ≤ stop ∧ stop ≤ hit.text.length := by
    rw [target] at htarget
    split at htarget
    · cases htarget
      exact ⟨Nat.zero_le _, Nat.le_refl _⟩
    · obtain ⟨l₁, l₂, hgroups, -⟩ := List.lookup_eq_some_iff.1 htarget
      exact matchAt_placed h ("secret", start, stop) (by simp [hgroups])
  have hfront : (hit.text.take start).length = start := List.length_take_of_le (by omega)
  have hsecret : ((hit.text.drop start).take (stop - start)).length = stop - start :=
    List.length_take_of_le (by rw [List.length_drop]; omega)
  refine ⟨hit.text.take start, (hit.text.drop start).take (stop - start), hit.text.drop stop, ⟨?_, ?_⟩, ?_, ?_⟩
  · have hdrop : hit.text.drop stop = (hit.text.drop start).drop (stop - start) := by
      rw [List.drop_drop, Nat.add_sub_cancel' hplaced.1]
    rw [hdrop, List.take_append_drop, List.take_append_drop]
  · rw [htarget, hfront, hsecret, Nat.add_sub_cancel' hplaced.1]
  · exact hfront.symm
  · rw [hfront, hsecret, Nat.add_sub_cancel' hplaced.1]

theorem Aims.unique {front' secret' back' : List Char} (h : rule.Aims hit front secret back)
    (h' : rule.Aims hit front' secret' back') : front = front' ∧ secret = secret' ∧ back = back' := by
  have htarget := Option.some.inj (h.target.symm.trans h'.target)
  simp only [Prod.mk.injEq] at htarget
  obtain ⟨rfl, hrest⟩ := List.append_inj (h.text.symm.trans h'.text) htarget.1
  obtain ⟨rfl, rfl⟩ := List.append_inj hrest (by omega)
  exact ⟨rfl, rfl, rfl⟩

/-- The atoms of a segment. -/
def segmentAtoms (rule : ContentRule) : Segment → List Atom
  | .plain c => [.kept c]
  | .hit hit => (rule.hitPieces hit).flatMap Piece.atoms

theorem atoms_eq : rule.atoms text = (rule.pattern.segments text).flatMap rule.segmentAtoms := by
  rw [atoms, pieces, List.flatMap_assoc]
  congr
  funext segment
  cases segment <;> rfl

/-- A match is left as it is, or the rule hides what it aims at. -/
theorem segmentAtoms_hit (h : rule.pattern.matchAt prev text = some hit) :
    (rule.segmentAtoms (.hit hit) = hit.text.map .kept ∧ ∀ front secret back, rule.Aims hit front secret back →
      secret = marker.toList ∨ rule.accepts secret = false) ∨
    ∃ front secret back, rule.Aims hit front secret back ∧ secret ≠ marker.toList ∧ rule.accepts secret ∧
      rule.segmentAtoms (.hit hit) = front.map .kept ++ .hidden secret :: back.map .kept := by
  rw [segmentAtoms, hitPieces]
  split
  · next htarget =>
    exact .inl ⟨by simp [Piece.atoms], fun _ _ _ haims => by simp [haims.target] at htarget⟩
  · next start stop htarget =>
    obtain ⟨front, secret, back, haims, rfl, rfl⟩ := exists_aims h htarget
    have hsecret : (hit.text.drop front.length).take (front.length + secret.length - front.length) = secret := by
      rw [haims.text, List.drop_left, Nat.add_sub_cancel_left, List.take_left]
    have hback : hit.text.drop (front.length + secret.length) = back := by
      rw [haims.text, ← List.append_assoc, ← List.length_append, List.drop_left]
    have hfront : hit.text.take front.length = front := by rw [haims.text, List.take_left]
    simp only [hsecret, hback, hfront]
    split
    · next hveto =>
      refine .inl ⟨by simp [Piece.atoms], fun front' secret' back' haims' => ?_⟩
      obtain ⟨-, rfl, -⟩ := haims.unique haims'
      simpa using hveto
    · next hveto =>
      simp only [Bool.or_eq_true, beq_iff_eq, Bool.not_eq_true', not_or, Bool.not_eq_false] at hveto
      exact .inr ⟨front, secret, back, haims, hveto.1, hveto.2, by simp [Piece.atoms]⟩

theorem tile_hit (h : rule.pattern.matchAt prev (hit.text ++ rest) = some hit) :
    Tile rule prev rest (rule.segmentAtoms (.hit hit)) ∧ textOf (rule.segmentAtoms (.hit hit)) = hit.text := by
  rcases segmentAtoms_hit h with ⟨heq, hveto⟩ | ⟨front, secret, back, haims, hne, haccepts, heq⟩
  · rw [heq]
    exact ⟨.vetoed h hveto, textOf_map_kept⟩
  · rw [heq]
    exact ⟨.swapped h haims hne haccepts, by simp [haims.text]⟩

/-- The segments of a text make tiles. -/
theorem tiled_of_cuts {adjacent : Bool} {segments : List Segment}
    (h : rule.pattern.Cuts prev adjacent text segments) :
    Tiled rule prev text (segments.flatMap rule.segmentAtoms) := by
  induction h with
  | done _ => exact .nil
  | plain hplain _ ih => exact .cons (.plain fun hit hmatch => (hplain hit hmatch).1) ih
  | hit hmatch _ _ ih =>
    obtain ⟨htile, htext⟩ := tile_hit hmatch
    rw [← htext] at ih
    have tiled := Tiled.cons htile ih
    rwa [htext] at tiled

theorem tiled_atoms (rule : ContentRule) (text : List Char) : Tiled rule none text (rule.atoms text) := by
  rw [atoms_eq]
  exact tiled_of_cuts (segments_cuts rule.pattern text)

theorem textOf_atoms (rule : ContentRule) (text : List Char) : textOf (rule.atoms text) = text :=
  (tiled_atoms rule text).textOf_eq

/-- Where nothing is hidden all is kept. -/
theorem atoms_of_hitCount (h : rule.hitCount text = 0) : rule.atoms text = text.map .kept := by
  have hkept : ∀ as : List Atom, as.countP Atom.isHidden = 0 → as = (textOf as).map .kept := by
    intro as h
    induction as with
    | nil => rfl
    | cons a as ih =>
      cases a with
      | kept c => simpa using ih (by simpa [Atom.isHidden] using h)
      | hidden secret => simp [Atom.isHidden] at h
  rw [hitCount_eq] at h
  rw [hkept _ h, textOf_atoms]

/-! ## The tile of an atom -/

/-- Every atom lies in a tile. -/
theorem Tiled.split {a : Atom} (h : Tiled rule prev text (as₁ ++ a :: as₂)) :
    ∃ as₀ tile₁ tile₂ as₃, as₁ = as₀ ++ tile₁ ∧ as₂ = tile₂ ++ as₃ ∧
      Tile rule ((textOf as₀).getLast?.or prev) (textOf as₃) (tile₁ ++ a :: tile₂) := by
  generalize hall : as₁ ++ a :: as₂ = all at h
  induction h generalizing as₁ with
  | nil => simp at hall
  | @cons prev rest tile as htile htiled ih =>
    have hprev : ∀ as₀, (textOf (tile ++ as₀)).getLast?.or prev =
        (textOf as₀).getLast?.or ((textOf tile).getLast?.or prev) := by
      intro as₀
      rw [textOf_append, List.getLast?_append, Option.or_assoc]
    rcases List.append_eq_append_iff.1 hall with ⟨tile₂, rfl, htail⟩ | ⟨as₁, rfl, htail⟩
    · rcases List.cons_eq_append_iff.1 htail with ⟨rfl, rfl⟩ | ⟨tile₂, rfl, rfl⟩
      · obtain ⟨as₀, tile₁, tile₂, as₃, h₁, h₂, h⟩ := ih (List.nil_append _)
        obtain ⟨rfl, rfl⟩ := List.append_eq_nil_iff.1 h₁.symm
        exact ⟨as₁, [], tile₂, as₃, by simp, h₂, by simpa [hprev] using h⟩
      · exact ⟨[], as₁, tile₂, as, rfl, rfl, htiled.textOf_eq ▸ htile⟩
    · obtain ⟨as₀, tile₁, tile₂, as₃, rfl, h₂, h⟩ := ih htail.symm
      exact ⟨tile ++ as₀, tile₁, tile₂, as₃, (List.append_assoc ..).symm, h₂, hprev as₀ ▸ h⟩

theorem tile_of_atoms {a : Atom} (has : rule.atoms text = as₁ ++ a :: as₂) :
    ∃ as₀ tile₁ tile₂ as₃, as₁ = as₀ ++ tile₁ ∧ as₂ = tile₂ ++ as₃ ∧
      Tile rule (textOf as₀).getLast? (textOf as₃) (tile₁ ++ a :: tile₂) := by
  obtain ⟨as₀, tile₁, tile₂, as₃, h₁, h₂, h⟩ := Tiled.split (has ▸ tiled_atoms rule text)
  exact ⟨as₀, tile₁, tile₂, as₃, h₁, h₂, by rwa [Option.or_none] at h⟩

theorem text_of_kept (has : rule.atoms text = as₁ ++ (w.map .kept ++ as₂)) :
    text = textOf as₁ ++ (w ++ textOf as₂) := by
  rw [← textOf_atoms rule text, has]
  simp

theorem text_of_hidden (has : rule.atoms text = as₁ ++ .hidden secret :: as₂) :
    text = textOf as₁ ++ (secret ++ textOf as₂) := by
  rw [← textOf_atoms rule text, has]
  simp

theorem split_map_kept {a : Atom} (h : u.map .kept = as₁ ++ a :: as₂) :
    ∃ v x w, u = v ++ x :: w ∧ as₁ = v.map .kept ∧ a = .kept x ∧ as₂ = w.map .kept := by
  obtain ⟨v, w, rfl, rfl, hw⟩ := List.map_eq_append_iff.1 h
  obtain ⟨x, w, rfl, rfl, rfl⟩ := List.map_eq_cons_iff.1 hw
  exact ⟨v, x, w, rfl, rfl, rfl, rfl⟩

/-- A hidden stretch is what the rule aims at in a match. -/
theorem Tile.hidden_inv (h : Tile rule prev rest (as₁ ++ .hidden secret :: as₂)) :
    ∃ hit front back, as₁ = front.map .kept ∧ as₂ = back.map .kept ∧
      rule.pattern.matchAt prev (hit.text ++ rest) = some hit ∧ rule.Aims hit front secret back ∧
      secret ≠ marker.toList ∧ rule.accepts secret := by
  generalize hall : as₁ ++ .hidden secret :: as₂ = tile at h
  cases h with
  | @plain c _ =>
    obtain ⟨_, _, _, -, -, h, -⟩ := split_map_kept (u := [c]) hall.symm
    cases h
  | vetoed _ _ =>
    obtain ⟨_, _, _, -, -, h, -⟩ := split_map_kept hall.symm
    cases h
  | @swapped hit front secret' back hmatch haims hne haccepts =>
    rcases List.append_eq_append_iff.1 hall with ⟨u, hu, hv⟩ | ⟨u, rfl, hv⟩
    · rcases List.cons_eq_append_iff.1 hv with ⟨rfl, hv⟩ | ⟨u, rfl, rfl⟩
      · cases hv
        exact ⟨hit, front, back, by simpa using hu.symm, rfl, hmatch, haims, hne, haccepts⟩
      · obtain ⟨_, _, _, -, -, h, -⟩ := split_map_kept hu
        cases h
    · rcases List.cons_eq_append_iff.1 hv with ⟨rfl, hv⟩ | ⟨u, rfl, hu⟩
      · cases hv
        exact ⟨hit, front, back, List.append_nil _, rfl, hmatch, haims, hne, haccepts⟩
      · obtain ⟨_, _, _, -, -, h, -⟩ := split_map_kept hu
        cases h

/-- A kept character lies outside all matches, in a match that stays, or beside what is hidden. -/
theorem Tile.kept_inv (h : Tile rule prev rest (as₁ ++ .kept c :: as₂)) :
    (as₁ = [] ∧ as₂ = [] ∧ ∀ hit, rule.pattern.matchAt prev (c :: rest) = some hit → hit.text = []) ∨
    (∃ hit u v, as₁ = u.map .kept ∧ as₂ = v.map .kept ∧ hit.text = u ++ c :: v ∧
      rule.pattern.matchAt prev (hit.text ++ rest) = some hit ∧ ∀ front secret back,
        rule.Aims hit front secret back → secret = marker.toList ∨ rule.accepts secret = false) ∨
    (∃ hit u v secret back, as₁ = u.map .kept ∧ as₂ = v.map .kept ++ .hidden secret :: back.map .kept ∧
      rule.pattern.matchAt prev (hit.text ++ rest) = some hit ∧ rule.Aims hit (u ++ c :: v) secret back) ∨
    (∃ hit front secret u v, as₁ = front.map .kept ++ .hidden secret :: u.map .kept ∧ as₂ = v.map .kept ∧
      rule.pattern.matchAt prev (hit.text ++ rest) = some hit ∧ rule.Aims hit front secret (u ++ c :: v)) := by
  generalize hall : as₁ ++ .kept c :: as₂ = tile at h
  cases h with
  | @plain x hnone =>
    rcases List.append_eq_singleton_iff.1 hall with ⟨rfl, h⟩ | ⟨-, h⟩
    · cases h
      exact .inl ⟨rfl, rfl, hnone⟩
    · cases h
  | @vetoed hit hmatch hveto =>
    obtain ⟨u, _, v, htext, rfl, h, rfl⟩ := split_map_kept hall.symm
    cases h
    exact .inr (.inl ⟨hit, u, v, rfl, rfl, htext, hmatch, hveto⟩)
  | @swapped hit front secret back hmatch haims _ _ =>
    rcases List.append_eq_append_iff.1 hall with ⟨u, hu, hv⟩ | ⟨u, rfl, hv⟩
    · rcases List.cons_eq_append_iff.1 hv with ⟨rfl, hv⟩ | ⟨u, rfl, rfl⟩
      · cases hv
      · obtain ⟨v, _, w, rfl, rfl, h, rfl⟩ := split_map_kept hu
        cases h
        exact .inr (.inr (.inl ⟨hit, v, w, secret, back, rfl, rfl, hmatch, haims⟩))
    · rcases List.cons_eq_append_iff.1 hv with ⟨rfl, hv⟩ | ⟨u, rfl, hu⟩
      · cases hv
      · obtain ⟨v, _, w, rfl, rfl, h, rfl⟩ := split_map_kept hu
        cases h
        exact .inr (.inr (.inr ⟨hit, front, secret, v, w, rfl, rfl, hmatch, haims⟩))

end ContentRule

/-! ## The place of kept text -/

/-- A text that has nothing to do with a marker: it has no bracket and some character that is not in the
marker. -/
structure Unmarked (w : List Char) : Prop where
  noOpen : '[' ∉ w
  noClose : ']' ∉ w
  foreign : ∃ x ∈ w, x ∉ marker.toList

theorem Unmarked.ne_nil (h : Unmarked w) : w ≠ [] := by
  obtain ⟨x, hx, -⟩ := h.foreign
  exact List.ne_nil_of_mem hx

theorem locate_prefix (h : shownOf as = u ++ v) (hu : '[' ∉ u) :
    ∃ as₂, as = u.map .kept ++ as₂ ∧ v = shownOf as₂ := by
  induction u generalizing as with
  | nil => exact ⟨as, rfl, h.symm⟩
  | cons x u ih =>
    cases as with
    | nil => cases h
    | cons a as =>
      cases a with
      | kept c =>
        simp only [shownOf_kept, List.cons_append, List.cons.injEq] at h
        obtain ⟨rfl, h⟩ := h
        obtain ⟨as₂, rfl, hv⟩ := ih h fun hmem => hu (List.mem_cons_of_mem _ hmem)
        exact ⟨as₂, rfl, hv⟩
      | hidden secret =>
        have : '[' = x := by
          have := congrArg List.head? h
          simpa [marker] using this
        exact absurd (this ▸ List.mem_cons_self) hu

/-- What is shown first is kept, up to its end or to a hidden stretch. -/
theorem shown_cases (h : shownOf as = w ++ v) :
    (∃ as₂, as = w.map .kept ++ as₂ ∧ v = shownOf as₂) ∨
    ∃ u x w' secret as₂, w = u ++ x :: w' ∧ as = u.map .kept ++ .hidden secret :: as₂ := by
  induction w generalizing as with
  | nil => exact .inl ⟨as, rfl, h.symm⟩
  | cons x w ih =>
    rcases as with _ | ⟨c | secret, as⟩
    · cases h
    · simp only [shownOf_kept, List.cons_append, List.cons.injEq] at h
      obtain ⟨rfl, h⟩ := h
      rcases ih h with ⟨as₂, rfl, hv⟩ | ⟨u, y, w', secret, as₂, rfl, rfl⟩
      · exact .inl ⟨as₂, rfl, hv⟩
      · exact .inr ⟨c :: u, y, w', secret, as₂, rfl, rfl⟩
    · exact .inr ⟨[], x, w, secret, as, rfl, rfl⟩

theorem map_kept_prefix (h : w.map .kept ++ as₁ = v.map .kept ++ .hidden secret :: as₂) : w <+: v := by
  induction w generalizing v with
  | nil => exact List.nil_prefix
  | cons x w ih =>
    cases v with
    | nil => cases h
    | cons y v =>
      simp only [List.map_cons, List.cons_append, List.cons.injEq, Atom.kept.injEq] at h
      exact List.cons_prefix_cons.2 ⟨h.1, ih h.2⟩

/-- Text without a trace of a marker is kept text. -/
theorem locate (hw : Unmarked w) (h : shownOf as = u ++ (w ++ v)) :
    ∃ as₁ as₂, as = as₁ ++ (w.map .kept ++ as₂) ∧ u = shownOf as₁ ∧ v = shownOf as₂ := by
  induction as generalizing u with
  | nil =>
    obtain ⟨x, hx, -⟩ := hw.foreign
    obtain ⟨-, hnil⟩ := List.append_eq_nil_iff.1 h.symm
    obtain ⟨rfl, -⟩ := List.append_eq_nil_iff.1 hnil
    exact absurd hx List.not_mem_nil
  | cons a as ih =>
    cases a with
    | kept c =>
      cases u with
      | nil =>
        obtain ⟨as₂, has, hv⟩ := locate_prefix (u := w) h hw.noOpen
        exact ⟨[], as₂, has, rfl, hv⟩
      | cons x u =>
        simp only [shownOf_kept, List.cons_append, List.cons.injEq] at h
        obtain ⟨rfl, h⟩ := h
        obtain ⟨as₁, as₂, rfl, rfl, hv⟩ := ih h
        exact ⟨.kept c :: as₁, as₂, rfl, rfl, hv⟩
    | hidden secret =>
      rw [shownOf_hidden] at h
      rcases List.append_eq_append_iff.1 h with ⟨u, rfl, htail⟩ | ⟨close, hmarker, htail⟩
      · obtain ⟨as₁, as₂, rfl, rfl, hv⟩ := ih htail
        exact ⟨.hidden secret :: as₁, as₂, rfl, rfl, hv⟩
      · rcases List.eq_nil_or_concat close with rfl | ⟨front, c, rfl⟩
        · obtain ⟨as₁, as₂, rfl, hu, hv⟩ := ih (u := []) htail.symm
          rw [List.append_nil] at hmarker
          exact ⟨.hidden secret :: as₁, as₂, rfl, by rw [shownOf_hidden, ← hu, List.append_nil, hmarker], hv⟩
        · -- The text would begin inside the marker and end there too or go past its last bracket.
          exfalso
          have hc : c = ']' := by
            have := congrArg List.getLast? hmarker
            simpa [marker] using this.symm
          rcases List.append_eq_append_iff.1 htail with ⟨inner, hclose, -⟩ | ⟨outer, rfl, -⟩
          · obtain ⟨x, hx, hforeign⟩ := hw.foreign
            exact hforeign (by rw [hmarker, hclose]; simp [hx])
          · exact hw.noClose (by simp [hc])

theorem ContentRule.locate {rule : ContentRule} {text : List Char} (hw : Unmarked w)
    (h : rule.apply text = u ++ (w ++ v)) :
    ∃ as₁ as₂, rule.atoms text = as₁ ++ (w.map .kept ++ as₂) ∧ u = shownOf as₁ ∧ v = shownOf as₂ :=
  Redaction.locate hw ((rule.shownOf_atoms text).trans h)

end Periscope.Redaction
