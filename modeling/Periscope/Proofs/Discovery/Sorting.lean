import Periscope.Discovery.Snapshot
import Periscope.Proofs.Text.Utf8

/-!
# Sorted texts

Sorting puts texts in the order of their characters, which is that of their bytes in UTF-8. What is sorted does
not depend on the order it came in, and different texts come out strictly increasing.
-/

namespace Periscope

open Text

theorem sortTexts_perm (texts : List String) : (sortTexts texts).Perm texts := List.mergeSort_perm _ _

theorem sortTexts_pairwise (texts : List String) : (sortTexts texts).Pairwise fun a b => ¬b < a := by
  refine (List.pairwise_mergeSort (fun a b c hab hbc => ?_) (fun a b => ?_) texts).imp fun h => by simpa using h
  · simp only [Bool.not_eq_true', decide_eq_false_iff_not, String.not_lt] at *
    exact String.le_trans hab hbc
  · simp only [Bool.or_eq_true, Bool.not_eq_true', decide_eq_false_iff_not, String.not_lt]
    exact String.le_total a b

theorem sortTexts_eq {texts texts' : List String} (h : texts.Perm texts')
    (sorted : texts'.Pairwise fun a b => ¬b < a) : sortTexts texts = texts' :=
  ((sortTexts_perm texts).trans h).eq_of_pairwise
    (fun _ _ _ _ hab hba => String.le_antisymm (String.not_lt.1 hab) (String.not_lt.1 hba))
    (sortTexts_pairwise texts) sorted

/-- The order of the texts does not count. -/
theorem sortTexts_congr {texts texts' : List String} (h : texts.Perm texts') :
    sortTexts texts = sortTexts texts' :=
  sortTexts_eq (h.trans (sortTexts_perm texts').symm) (sortTexts_pairwise texts')

/-- Different texts are sorted strictly, byte by byte. -/
theorem sortTexts_strict {texts : List String} (h : texts.Nodup) :
    (sortTexts texts).Pairwise fun a b => a.toUTF8.data.toList < b.toUTF8.data.toList := by
  have hne : (sortTexts texts).Nodup := (sortTexts_perm texts).nodup_iff.2 h
  refine (sortTexts_pairwise texts).imp₂ (fun a b hba hab => bytes_lt_of_lt ?_) hne
  refine Decidable.not_not.1 fun hlt => hab ?_
  exact String.le_antisymm (String.not_lt.1 hba) (String.not_lt.1 hlt)

end Periscope
