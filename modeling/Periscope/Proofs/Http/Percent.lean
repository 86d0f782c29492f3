import Periscope.Http.Percent
import Periscope.Proofs.Text.Utf8

/-!
# Percent encoding is read back

Decoding an encoded text gives the bytes of the text, whichever characters the encoding holds, unless it holds
the percent sign itself. So two texts with one encoding are one text.
-/

namespace Periscope.Http

open Text

/-! ## Decoding -/

theorem hexDigitValue?_upperHexDigit : ∀ n < 16, hexDigitValue? (upperHexDigit n) = some n := by decide

theorem percentDecode_cons {c : Char} (h : c ≠ '%') (rest : List Char) :
    percentDecode (c :: rest) = String.utf8EncodeChar c ++ percentDecode rest := by
  cases rest with
  | nil => simp [percentDecode]
  | cons a rest => cases rest <;> simp [percentDecode, h]

theorem percentDecode_encodedByte (b : UInt8) (rest : List Char) :
    percentDecode (encodedByte b ++ rest) = b :: percentDecode rest := by
  have small : b.toNat < 256 := b.toNat_lt
  have high := hexDigitValue?_upperHexDigit (b.toNat / 16) (by omega)
  have low := hexDigitValue?_upperHexDigit (b.toNat % 16) (by omega)
  have whole : 16 * (b.toNat / 16) + b.toNat % 16 = b.toNat := by omega
  simp only [encodedByte, List.cons_append, List.nil_append, percentDecode, high, low, whole, UInt8.ofNat_toNat]

theorem percentDecode_encodedBytes (bytes : List UInt8) (rest : List Char) :
    percentDecode (bytes.flatMap encodedByte ++ rest) = bytes ++ percentDecode rest := by
  induction bytes with
  | nil => rfl
  | cons b bytes ih =>
    rw [List.flatMap_cons, List.append_assoc, percentDecode_encodedByte, ih, List.cons_append]

section

variable {holds : Char → Bool}

theorem percentDecode_percentEncode (h : holds '%' = false) (s : List Char) :
    percentDecode (percentEncode holds s) = utf8Bytes s := by
  induction s with
  | nil => rfl
  | cons c s ih =>
    rw [percentEncode, List.flatMap_cons, utf8Bytes, List.flatMap_cons]
    split
    · next held =>
      have other : c ≠ '%' := by
        rintro rfl
        cases h.symm.trans held
      rw [List.singleton_append, percentDecode_cons other]
      exact congrArg _ ih
    · rw [encodedChar, percentDecode_encodedBytes]
      exact congrArg _ ih

theorem percentEncode_injective (h : holds '%' = false) {s t : List Char}
    (same : percentEncode holds s = percentEncode holds t) : s = t := by
  have bytes := congrArg percentDecode same
  rw [percentDecode_percentEncode h, percentDecode_percentEncode h] at bytes
  exact utf8Bytes_injective bytes

/-! ## What stands in an encoded text -/

theorem upperHexDigit_isAlphanum : ∀ n < 16, (upperHexDigit n).isAlphanum := by decide

theorem mem_encodedChar {c d : Char} (h : d ∈ encodedChar c) : d = '%' ∨ d.isAlphanum := by
  obtain ⟨b, -, mem⟩ := List.mem_flatMap.1 h
  have small : b.toNat < 256 := b.toNat_lt
  simp only [encodedByte, List.mem_cons, List.not_mem_nil, or_false] at mem
  rcases mem with rfl | rfl | rfl
  · exact .inl rfl
  · exact .inr (upperHexDigit_isAlphanum _ (by omega))
  · exact .inr (upperHexDigit_isAlphanum _ (by omega))

theorem mem_percentEncode {c : Char} {s : List Char} (h : c ∈ percentEncode holds s) :
    holds c ∨ c = '%' ∨ c.isAlphanum := by
  obtain ⟨d, -, mem⟩ := List.mem_flatMap.1 h
  split at mem
  · next held => exact .inl (List.mem_singleton.1 mem ▸ held)
  · exact .inr (mem_encodedChar mem)

end

end Periscope.Http
