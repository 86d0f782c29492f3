import Periscope.Proofs.Redaction.Agreement
import Periscope.Proofs.Redaction.Extras
import Periscope.Proofs.Text.FinalSigma

/-!
# Configured key terms

A configured term and a mapping key are taken in small letters apart from each other, so the redactor finds the term in
every key around it exactly if all sigmas of the term are settled. Main result: `term_protects_iff_settled`.
-/

namespace Periscope

open Json Redaction Text

variable {term : String} {key : String} {rule : Rule}

theorem Redaction.holdsText_iff {term text : List Char} : holdsText term text ↔ term <:+: text := by
  induction text with
  | nil => rw [holdsText, List.isEmpty_iff, List.infix_nil]
  | cons c rest ih => rw [holdsText, Bool.or_eq_true, List.isPrefixOf_iff_prefix, ih, List.infix_cons_iff]

namespace Redactor

/-- The key has the term in it, as it is written, without the blank space around it. -/
def HasTerm (term key : String) : Prop := trimBlank term.toList <:+: key.toList

instance (term key : String) : Decidable (HasTerm term key) := inferInstanceAs (Decidable (_ <:+: _))

/-- The key in small letters has the term in small letters in it. -/
def FindsTerm (term key : String) : Prop := lowercase (trimBlank term.toList) <:+: lowercase key.toList

theorem matchesKey_iff_findsTerm (h : extraKeyRule? term = some rule) :
    rule.matchesKey key.toList ↔ FindsTerm term key := by
  rw [extraKeyRule?] at h
  split at h
  · cases h
  · cases h
    rw [Rule.matchesKey, KeyMatcher.accepts, String.toList_ofList, holdsText_iff, FindsTerm]

/-- A configured term hides the keys it is found in, and blank terms do nothing. -/
theorem hides_configured_iff_findsTerm (read : String → Option Pattern) (keys patterns : List String) :
    (configured read keys patterns).Hides key ↔
      builtin.Hides key ∨ ∃ term ∈ keys, isTerm term ∧ FindsTerm term key := by
  rw [hides_configured_iff]
  refine or_congr_right ⟨fun ⟨rule, hrule, hmatches⟩ => ?_, fun ⟨term, hmem, hterm, hfinds⟩ => ?_⟩
  · obtain ⟨term, hmem, hrule⟩ := List.mem_filterMap.1 hrule
    refine ⟨term, hmem, ?_, (matchesKey_iff_findsTerm hrule).1 hmatches⟩
    rw [← isSome_extraKeyRule?, hrule, Option.isSome_some]
  · obtain ⟨rule, hrule⟩ := Option.isSome_iff_exists.1 ((isSome_extraKeyRule? term).trans hterm)
    exact ⟨rule, List.mem_filterMap.2 ⟨term, hmem, hrule⟩, (matchesKey_iff_findsTerm hrule).2 hfinds⟩

/-- All sigmas of a term are settled exactly if the term is found in every key that has it. -/
theorem settled_iff_findsTerm : Settled (trimBlank term.toList) ↔ ∀ key, HasTerm term key → FindsTerm term key := by
  refine ⟨fun settled key has => lowercase_infix settled has, fun finds => by_contra fun unsettled => ?_⟩
  obtain ⟨key, has, missed⟩ := exists_not_lowercase_infix unsettled
  have found := finds (String.ofList key)
  simp only [HasTerm, FindsTerm, String.toList_ofList] at found
  exact missed (found has)

/-- A configured term hides what stands under every key that has it, whatever else is configured, if all its sigmas
are settled. If not, there is a key that has the term, and for which the term does nothing. -/
theorem term_protects_iff_settled (hterm : isTerm term) :
    (Settled (trimBlank term.toList) → ∀ read keys patterns key v, term ∈ keys → HasTerm term key →
      (configured read keys patterns).redactValue (.obj [(key, v)]) = .obj [(key, .str marker)]) ∧
    (¬ Settled (trimBlank term.toList) → ∃ key, HasTerm term key ∧ ∀ read keys patterns,
      (configured read (term :: keys) patterns).Hides key ↔ (configured read keys patterns).Hides key) := by
  refine ⟨fun settled read keys patterns key v hmem has => ?_, fun unsettled => ?_⟩
  · have hides := (hides_configured_iff_findsTerm read keys patterns).2
      (.inr ⟨term, hmem, hterm, settled_iff_findsTerm.1 settled key has⟩)
    rw [redactValue, redactMembers_cons_of_hides hides, redactMembers]
  · simp only [settled_iff_findsTerm, not_forall] at unsettled
    obtain ⟨key, has, missed⟩ := unsettled
    refine ⟨key, has, fun read keys patterns => ?_⟩
    rw [hides_configured_iff_findsTerm, hides_configured_iff_findsTerm]
    simp [missed]

/-- The sigma of one term has a letter behind it, and that of the other ends the term. -/
theorem term_protects_iff_settled_greek : isTerm " ΧΡΗΣΤΗ " ∧ isTerm "ΚΩΔΙΚΟΣ" ∧
    (withExtras ["owner", " ΧΡΗΣΤΗ "] []).redactValue (.obj [("ΟΧΡΗΣΤΗΣ.id", .null)]) =
      .obj [("ΟΧΡΗΣΤΗΣ.id", .str marker)] ∧
    ∃ key, HasTerm "ΚΩΔΙΚΟΣ" key ∧ ∀ read keys patterns,
      (configured read ("ΚΩΔΙΚΟΣ" :: keys) patterns).Hides key ↔ (configured read keys patterns).Hides key := by
  have user : isTerm " ΧΡΗΣΤΗ " := by decide +kernel
  have code : isTerm "ΚΩΔΙΚΟΣ" := by decide +kernel
  have protects := (term_protects_iff_settled user).1 (by decide +kernel)
  have misses := (term_protects_iff_settled code).2 (by decide +kernel)
  exact ⟨user, code, protects _ _ _ "ΟΧΡΗΣΤΗΣ.id" _ (by decide) (by decide +kernel), misses⟩

/-- The full stop does not count for a sigma, so the letter behind it keeps the sigma of the key from being final. -/
theorem term_misses_key : "ΚΩΔΙΚΟΣ" ∈ ["ΚΩΔΙΚΟΣ"] ∧ isTerm "ΚΩΔΙΚΟΣ" ∧ HasTerm "ΚΩΔΙΚΟΣ" "ΚΩΔΙΚΟΣ.ΧΡΗΣΤΗ" ∧
    (withExtras ["ΚΩΔΙΚΟΣ"] []).redactValue (.obj [("ΚΩΔΙΚΟΣ.ΧΡΗΣΤΗ", .str "hunter2")]) =
      .obj [("ΚΩΔΙΚΟΣ.ΧΡΗΣΤΗ", .str "hunter2")] := by
  have hnone : ((withExtras ["ΚΩΔΙΚΟΣ"] []).keyRule? "ΚΩΔΙΚΟΣ.ΧΡΗΣΤΗ").isSome = false := by decide +kernel
  have htext : (withExtras ["ΚΩΔΙΚΟΣ"] []).redactText "hunter2" = "hunter2" := by decide +kernel
  refine ⟨List.mem_singleton_self _, by decide +kernel, by decide +kernel, ?_⟩
  rw [redactValue, redactMembers, hnone, redactValue, htext]
  rfl

end Redactor

end Periscope
