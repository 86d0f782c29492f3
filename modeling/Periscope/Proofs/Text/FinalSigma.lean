import Mathlib.Data.List.Infix
import Periscope.Proofs.Text.Lowercase

/-!
# Final sigmas

A capital sigma has two small forms, and what stands around it decides between them. A sigma is settled in a text if the
text itself decides, whatever else stands around the text. So the lowercase form of a text stands in that of every text
around it exactly if all its sigmas are settled: `lowercase_infix`, `exists_not_lowercase_infix`.
-/

namespace Periscope.Text

variable {before rest s t : List Char} {c : Char}

/-! ## Between two texts -/

/-- Whether a capital sigma is a final one behind `before`, nearest character first, and in front of `rest`. -/
def isFinal (before rest : List Char) : Bool := nextIsCased before && !nextIsCased rest

/-- The lowercase form of a character between two texts. -/
def formBetween (before : List Char) (c : Char) (rest : List Char) : List Char :=
  if c == 'Σ' then [if isFinal before rest then 'ς' else 'σ'] else lowercaseChar c

theorem lowercaseAfter_cons (before : List Char) (c : Char) (rest : List Char) :
    lowercaseAfter before (c :: rest) = formBetween before c rest ++ lowercaseAfter (c :: before) rest := rfl

theorem formBetween_sigma (before rest : List Char) :
    formBetween before 'Σ' rest = [if isFinal before rest then 'ς' else 'σ'] := rfl

/-- Whether the nearest character that counts for a sigma is cased, if there is such a character. -/
def nearest? (s : List Char) : Option Bool := (s.find? (!isCaseIgnorable ·)).map isCased

theorem nextIsCased_eq (s : List Char) : nextIsCased s = (nearest? s).getD false := by
  induction s with
  | nil => rfl
  | cons c s ih =>
    cases hc : isCaseIgnorable c
    · simp [nextIsCased, nearest?, hc]
    · simpa [nextIsCased, nearest?, hc] using ih

theorem isFinal_eq (before rest : List Char) :
    isFinal before rest = ((nearest? before).getD false && !(nearest? rest).getD false) := by
  rw [isFinal, nextIsCased_eq, nextIsCased_eq]

theorem nearest?_nil : nearest? [] = none := rfl

theorem nearest?_append (s t : List Char) : nearest? (s ++ t) = (nearest? s).or (nearest? t) := by
  rw [nearest?, List.find?_append, Option.map_or]
  rfl

/-! ## Settled sigmas -/

/-- Whether nothing that stands further away counts for a sigma between the two texts: a letter behind it that is cased
or a character before it that is not decides alone, and otherwise both sides have to be known. -/
def isSettled (before rest : List Char) : Bool :=
  nearest? rest == some true || nearest? before == some false ||
    ((nearest? before).isSome && (nearest? rest).isSome)

/-- Whether every capital sigma of a text is settled, whose preceding text, nearest character first, is `before`. -/
def settledAfter (before : List Char) : List Char → Bool
  | [] => true
  | c :: rest => (c != 'Σ' || isSettled before rest) && settledAfter (c :: before) rest

/-- Every capital sigma of the text is settled. -/
def Settled (s : List Char) : Prop := settledAfter [] s

instance (s : List Char) : Decidable (Settled s) := inferInstanceAs (Decidable (_ = true))

theorem isFinal_append (h : isSettled before rest) (further behind : List Char) :
    isFinal (before ++ further) (rest ++ behind) = isFinal before rest := by
  simp only [isFinal_eq, nearest?_append]
  unfold isSettled at h
  cases hbefore : nearest? before <;> cases hrest : nearest? rest <;> simp_all

theorem formBetween_append (h : c = 'Σ' → isSettled before rest) (further behind : List Char) :
    formBetween (before ++ further) c (rest ++ behind) = formBetween before c rest := by
  unfold formBetween
  split
  · next hc => rw [isFinal_append (h (beq_iff_eq.1 hc))]
  · rfl

/-- What is settled stays as it is in a longer text. -/
theorem lowercaseAfter_append (h : settledAfter before s) (further behind : List Char) :
    lowercaseAfter (before ++ further) (s ++ behind) =
      lowercaseAfter before s ++ lowercaseAfter (s.reverse ++ (before ++ further)) behind := by
  induction s generalizing before with
  | nil => rfl
  | cons c s ih =>
    obtain ⟨first, others⟩ := Bool.and_eq_true_iff.1 h
    have settled : c = 'Σ' → isSettled before s := fun hc => by simpa [hc] using first
    rw [List.cons_append, lowercaseAfter_cons, lowercaseAfter_cons, formBetween_append settled, List.append_assoc,
      List.reverse_cons, List.append_assoc]
    exact congrArg _ (ih others)

/-! ## Lengths -/

theorem length_formBetween (before before' rest rest' : List Char) (c : Char) :
    (formBetween before c rest).length = (formBetween before' c rest').length := by
  unfold formBetween
  split <;> rfl

theorem length_lowercaseAfter (before before' s : List Char) :
    (lowercaseAfter before s).length = (lowercaseAfter before' s).length := by
  induction s generalizing before before' with
  | nil => rfl
  | cons c s ih =>
    rw [lowercaseAfter_cons, lowercaseAfter_cons, List.length_append, List.length_append,
      length_formBetween before before' s s, ih (c :: before) (c :: before')]

/-- The form of a text in front of another one is as long as its own. -/
theorem exists_lowercaseAfter_append (before s t : List Char) :
    ∃ front, front.length = (lowercase s).length ∧
      lowercaseAfter before (s ++ t) = front ++ lowercaseAfter (s.reverse ++ before) t := by
  induction s generalizing before with
  | nil => exact ⟨[], rfl, rfl⟩
  | cons c s ih =>
    obtain ⟨front, length, eq⟩ := ih (c :: before)
    refine ⟨formBetween before c (s ++ t) ++ front, ?_, ?_⟩
    · rw [lowercase, lowercaseAfter_cons, List.length_append, List.length_append, length,
        length_formBetween before [] (s ++ t) s, lowercase, length_lowercaseAfter [] [c]]
    · rw [List.cons_append, lowercaseAfter_cons, eq]
      simp

theorem lowercase_infix (h : Settled s) (around : s <:+: t) : lowercase s <:+: lowercase t := by
  obtain ⟨front, behind, rfl⟩ := around
  obtain ⟨front', -, eq⟩ := exists_lowercaseAfter_append [] front (s ++ behind)
  have kept := lowercaseAfter_append h (front.reverse ++ []) behind
  rw [List.nil_append] at kept
  rw [List.append_assoc, lowercase, lowercase, eq, kept, ← List.append_assoc]
  exact ⟨front', _, rfl⟩

/-! ## Sigmas that are not settled -/

theorem exists_unsettled (h : settledAfter before s = false) :
    ∃ front behind, s = front ++ 'Σ' :: behind ∧ isSettled (front.reverse ++ before) behind = false := by
  induction s generalizing before with
  | nil => cases h
  | cons c s ih =>
    rcases Bool.and_eq_false_iff.1 h with here | later
    · obtain ⟨rfl, unsettled⟩ : c = 'Σ' ∧ isSettled before s = false := by simpa using here
      exact ⟨[], s, rfl, unsettled⟩
    · obtain ⟨front, behind, rfl, unsettled⟩ := ih later
      exact ⟨c :: front, behind, rfl, by simpa using unsettled⟩

/-- Lowercase forms of texts with a sigma behind the same front tell which form the sigma has. -/
theorem isFinal_eq_of_lowercaseAfter_eq {before before' front behind behind' more : List Char}
    (same : lowercaseAfter before (front ++ 'Σ' :: behind) = lowercaseAfter before' (front ++ 'Σ' :: behind') ++ more) :
    isFinal (front.reverse ++ before) behind = isFinal (front.reverse ++ before') behind' := by
  obtain ⟨first, length, eq⟩ := exists_lowercaseAfter_append before front ('Σ' :: behind)
  obtain ⟨first', length', eq'⟩ := exists_lowercaseAfter_append before' front ('Σ' :: behind')
  rw [eq, eq', List.append_assoc] at same
  have sigma := (List.append_inj same (length.trans length'.symm)).2
  rw [lowercaseAfter_cons, lowercaseAfter_cons, formBetween_sigma, formBetween_sigma] at sigma
  have forms := (List.cons.inj sigma).1
  revert forms
  cases isFinal (front.reverse ++ before) behind <;> cases isFinal (front.reverse ++ before') behind' <;> simp

/-- One of two letters, and not the given character. -/
def otherLetter (avoided : Option Char) : Char := if avoided = some 'a' then 'b' else 'a'

theorem otherLetter_ne (avoided : Option Char) : avoided ≠ some (otherLetter avoided) := by
  unfold otherLetter
  split
  · next h => simp [h]
  · next h => exact h

theorem nearest?_otherLetter (avoided : Option Char) (s : List Char) :
    nearest? (otherLetter avoided :: s) = some true := by
  have first : isCaseIgnorable 'a' = false ∧ isCased 'a' = true := by decide +kernel
  have second : isCaseIgnorable 'b' = false ∧ isCased 'b' = true := by decide +kernel
  unfold otherLetter
  split
  · simp [nearest?, second]
  · simp [nearest?, first]

theorem formBetween_otherLetter (avoided : Option Char) (before rest : List Char) :
    formBetween before (otherLetter avoided) rest = [otherLetter avoided] := by
  unfold otherLetter
  split <;> rfl

section

variable {front behind : List Char}

theorem lowercase_sigma_ne_nil : lowercase (front ++ 'Σ' :: behind) ≠ [] := by simp [lowercase_eq_nil_iff]

/-- A letter before the text makes its sigma final. -/
theorem not_infix_behind_letter (before : nearest? front.reverse = none) (after : nearest? behind ≠ some true) :
    ∃ letter, ¬ lowercase (front ++ 'Σ' :: behind) <:+: lowercase (letter :: (front ++ 'Σ' :: behind)) := by
  refine ⟨otherLetter (lowercase (front ++ 'Σ' :: behind)).head?, fun around => ?_⟩
  rw [lowercase.eq_def (_ :: _), lowercaseAfter_cons, formBetween_otherLetter, List.singleton_append] at around
  rcases List.infix_cons_iff.1 around with atStart | later
  · rcases List.prefix_cons_iff.1 atStart with empty | ⟨others, starts, -⟩
    · exact lowercase_sigma_ne_nil empty
    · exact otherLetter_ne _ (congrArg List.head? starts)
  · have same := later.eq_of_length (length_lowercaseAfter _ _ _)
    have final := isFinal_eq_of_lowercaseAfter_eq (same.trans (List.append_nil _).symm)
    have cased : (nearest? behind).getD false = true := by
      simpa [isFinal_eq, nearest?_append, before, nearest?_otherLetter, nearest?_nil] using final
    exact after (by simpa [Option.getD_eq_iff] using cased)

/-- A letter behind the text keeps its sigma from being final. -/
theorem not_infix_before_letter (before : nearest? front.reverse = some true) (after : nearest? behind = none) :
    ∃ letter, ¬ lowercase (front ++ 'Σ' :: behind) <:+: lowercase (front ++ 'Σ' :: behind ++ [letter]) := by
  refine ⟨otherLetter (lowercase (front ++ 'Σ' :: behind)).getLast?, fun around => ?_⟩
  obtain ⟨form, length, eq⟩ := exists_lowercaseAfter_append [] (front ++ 'Σ' :: behind)
    [otherLetter (lowercase (front ++ 'Σ' :: behind)).getLast?]
  rw [lowercaseAfter_cons, formBetween_otherLetter, lowercaseAfter, List.append_nil] at eq
  rw [lowercase.eq_def (_ ++ [_]), eq] at around
  rcases List.infix_concat_iff.1 around with atEnd | earlier
  · rcases List.suffix_concat_iff.1 atEnd with empty | ⟨others, ends, -⟩
    · exact lowercase_sigma_ne_nil empty
    · exact otherLetter_ne _ ((congrArg List.getLast? ends).trans List.getLast?_concat)
  · have same := earlier.eq_of_length length.symm
    rw [← same, List.append_assoc, List.cons_append] at eq
    have final := isFinal_eq_of_lowercaseAfter_eq eq
    simp [isFinal_eq, nearest?_append, before, after, nearest?_otherLetter] at final

end

/-- A letter before the text, or else one behind it, changes a sigma that is not settled. -/
theorem exists_not_lowercase_infix (h : ¬ Settled s) : ∃ t, s <:+: t ∧ ¬ lowercase s <:+: lowercase t := by
  obtain ⟨front, behind, rfl, unsettled⟩ := exists_unsettled (Bool.eq_false_iff.2 h)
  rw [List.append_nil] at unsettled
  unfold isSettled at unsettled
  cases before : nearest? front.reverse with
  | none =>
    have after : nearest? behind ≠ some true := fun cased => by simp [cased] at unsettled
    obtain ⟨letter, missed⟩ := not_infix_behind_letter before after
    exact ⟨_, List.infix_cons (List.infix_refl _), missed⟩
  | some cased =>
    obtain ⟨rfl, after⟩ : cased = true ∧ nearest? behind = none := by
      cases cased <;> cases after : nearest? behind <;> simp_all
    obtain ⟨letter, missed⟩ := not_infix_before_letter before after
    exact ⟨_, (List.prefix_append _ _).isInfix, missed⟩

end Periscope.Text
