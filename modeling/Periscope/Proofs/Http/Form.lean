import Periscope.Http.Host
import Periscope.Proofs.Http.Percent
import Periscope.Proofs.Text.Split

/-!
# Forms are read back

A form is a text of names and values: equals signs stand between a name and its value, ampersands between the pairs,
and both are encoded wherever else they occur. So a name and a value that are form-encoded are read back as they are,
whatever characters they hold.
-/

namespace Periscope.Http

open Text

/-! ## Reading -/

/-- A plus sign stands for a blank. -/
def plusToBlank (c : Char) : Char := if c == '+' then ' ' else c

/-- The text that an encoded part of a form stands for. Bytes that are no UTF-8 stand for none. -/
def formDecode? (s : List Char) : Option String :=
  String.fromUTF8? ⟨(percentDecode (s.map plusToBlank)).toArray⟩

/-- The name and the value around the first equals sign. A part without one is a name with an empty value. -/
def formPair? (part : List Char) : Option (String × String) := do
  let (name, value) := (splitFirst? '=' part).getD (part, [])
  some (← formDecode? name, ← formDecode? value)

/-- The names and values of a form, one pair for each part between ampersands that is not empty. -/
def formPairs? (s : List Char) : Option (List (String × String)) :=
  ((Host.splitAt '&' s).filter (!·.isEmpty)).mapM formPair?

/-! ## Encoded texts -/

section

variable {c : Char} {s : List Char}

theorem mem_formEncode (h : c ∈ formEncode s) : inForm c ∨ c = '+' ∨ c = '%' := by
  obtain ⟨d, -, mem⟩ := List.mem_flatMap.1 h
  split at mem
  · next held => exact .inl (List.mem_singleton.1 mem ▸ held)
  · split at mem
    · exact .inr (.inl (List.mem_singleton.1 mem))
    · refine (mem_encodedChar mem).symm.imp (fun letter => ?_) .inr
      simp [inForm, letter]

theorem notMem_formEncode (outside : inForm c = false) (other : c ≠ '+' ∧ c ≠ '%') : c ∉ formEncode s := by
  intro mem
  rcases mem_formEncode mem with held | plus | percent
  · cases outside.symm.trans held
  · exact other.1 plus
  · exact other.2 percent

theorem plusToBlank_of_ne (h : c ≠ '+') : plusToBlank c = c := by simp [plusToBlank, h]

/-- No plus sign comes from a character that is encoded byte by byte. -/
theorem map_plusToBlank_encodedChar (c : Char) : (encodedChar c).map plusToBlank = encodedChar c := by
  refine (List.map_congr_left fun d mem => ?_).trans (List.map_id _)
  rcases mem_encodedChar mem with rfl | letter
  · rfl
  · exact plusToBlank_of_ne fun plus => by rw [plus] at letter; cases letter

theorem percentDecode_formEncode (s : List Char) :
    percentDecode ((formEncode s).map plusToBlank) = utf8Bytes s := by
  induction s with
  | nil => rfl
  | cons c s ih =>
    rw [formEncode, List.flatMap_cons, List.map_append, ← formEncode, utf8Bytes, List.flatMap_cons, ← utf8Bytes, ← ih]
    split
    · next held =>
      have other : c ≠ '+' ∧ c ≠ '%' := by
        constructor <;> rintro rfl <;> cases held
      rw [List.map_singleton, plusToBlank_of_ne other.1, List.singleton_append, percentDecode_cons other.2]
    · split
      · next blank =>
        obtain rfl : c = ' ' := beq_iff_eq.1 blank
        exact percentDecode_cons (by decide) _
      · rw [map_plusToBlank_encodedChar, encodedChar, percentDecode_encodedBytes]

theorem formDecode?_formEncode (s : String) : formDecode? (formEncode s.toList) = some s := by
  rw [formDecode?, percentDecode_formEncode, fromUTF8?_utf8Bytes]

end

/-! ## Pairs -/

theorem splitAt_of_notMem {mark : Char} {s : List Char} (h : mark ∉ s) : Host.splitAt mark s = [s] := by
  induction s with
  | nil => rfl
  | cons c s ih =>
    rw [List.mem_cons, not_or] at h
    simp [Host.splitAt, ih h.2, Ne.symm h.1]

theorem formPair?_formEncode (name value : String) :
    formPair? (formEncode name.toList ++ '=' :: formEncode value.toList) = some (name, value) := by
  have free : '=' ∉ formEncode name.toList := notMem_formEncode (by decide) (by decide)
  have cut : splitFirst? '=' (formEncode name.toList ++ '=' :: formEncode value.toList) =
      some (formEncode name.toList, formEncode value.toList) := splitFirst?_eq_some.2 ⟨rfl, free⟩
  simp only [formPair?, cut, Option.getD_some, formDecode?_formEncode]
  rfl

/-- A pair that is written into a form is the only one there. -/
theorem formPairs?_formEncode (name value : String) :
    formPairs? (formEncode name.toList ++ '=' :: formEncode value.toList) = some [(name, value)] := by
  have whole : '&' ∉ formEncode name.toList ++ '=' :: formEncode value.toList := by
    have free (s : List Char) : '&' ∉ formEncode s := notMem_formEncode (by decide) (by decide)
    simp [free]
  simp [formPairs?, splitAt_of_notMem whole, formPair?_formEncode]

end Periscope.Http
