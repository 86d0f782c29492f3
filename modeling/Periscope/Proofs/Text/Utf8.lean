import Mathlib.Tactic.SplitIfs

/-!
# The bytes of a text

A text is told by its bytes in UTF-8, and the order of texts is the order of their bytes. A byte below 128 stands in
no character but its own.
-/

namespace Periscope.Text

/-- The bytes of a text. -/
def utf8Bytes (s : List Char) : List UInt8 := s.flatMap String.utf8EncodeChar

theorem utf8Bytes_append (s t : List Char) : utf8Bytes (s ++ t) = utf8Bytes s ++ utf8Bytes t :=
  List.flatMap_append

theorem utf8Bytes_toList (s : String) : utf8Bytes s.toList = s.toUTF8.data.toList := by
  have encoded : s.toList.utf8Encode = s.toUTF8 := String.utf8Encode_toList
  rw [← encoded, List.utf8Encode, List.data_toByteArray]
  rfl

theorem utf8Bytes_injective {s t : List Char} (h : utf8Bytes s = utf8Bytes t) : s = t := by
  have encoded : s.utf8Encode = t.utf8Encode := by
    simpa [utf8Bytes, List.utf8Encode] using congrArg List.toByteArray h
  have decoded := congrArg ByteArray.utf8Decode? encoded
  simpa using decoded

theorem fromUTF8?_utf8Bytes (s : String) : String.fromUTF8? ⟨(utf8Bytes s.toList).toArray⟩ = some s := by
  have bytes : (⟨(utf8Bytes s.toList).toArray⟩ : ByteArray) = s.toUTF8 := by
    rw [utf8Bytes_toList, Array.toArray_toList]
  rw [bytes, String.fromUTF8?]
  exact dif_pos s.isValidUTF8

/-- A byte below 128 stands for itself, and in no other character. -/
theorem toNat_of_mem_utf8EncodeChar {c : Char} {b : UInt8} (hb : b.toNat < 128) (h : b ∈ String.utf8EncodeChar c) :
    c.toNat = b.toNat := by
  have large : ∀ n, 128 ≤ n → n < 256 → b ≠ UInt8.ofNat n := by
    rintro n hn hn' rfl
    rw [UInt8.toNat_ofNat'] at hb
    omega
  rw [String.utf8EncodeChar.eq_1, show c.val.toNat = c.toNat from rfl] at h
  split at h
  · obtain rfl := List.mem_singleton.1 h
    rw [UInt8.toNat_ofNat']
    omega
  · -- a character of several bytes has no byte below 128
    exfalso
    split at h
    · simp only [List.mem_cons, List.not_mem_nil, or_false] at h
      rcases h with h | h <;> exact large _ (by omega) (by omega) h
    · split at h
      · simp only [List.mem_cons, List.not_mem_nil, or_false] at h
        rcases h with h | h | h <;> exact large _ (by omega) (by omega) h
      · simp only [List.mem_cons, List.not_mem_nil, or_false] at h
        rcases h with h | h | h | h <;> exact large _ (by omega) (by omega) h

theorem notMem_utf8Bytes {s : List Char} {b : UInt8} (hb : b.toNat < 128) (h : Char.ofNat b.toNat ∉ s) :
    b ∉ utf8Bytes s := by
  intro mem
  obtain ⟨c, hc, hbc⟩ := List.mem_flatMap.1 mem
  rw [← toNat_of_mem_utf8EncodeChar hb hbc, Char.ofNat_toNat] at h
  exact h hc

theorem head?_of_utf8Bytes {s : List Char} {b : UInt8} (hb : b.toNat < 128) (h : (utf8Bytes s).head? = some b) :
    s.head? = some (Char.ofNat b.toNat) := by
  cases s with
  | nil => cases h
  | cons c s =>
    obtain ⟨d, rest, hd⟩ := List.exists_cons_of_ne_nil (String.utf8EncodeChar_ne_nil (c := c))
    have hc : b ∈ String.utf8EncodeChar c := by
      rw [utf8Bytes, List.flatMap_cons, hd] at h
      simp only [List.cons_append, List.head?_cons, Option.some.injEq] at h
      simp [hd, h]
    rw [← toNat_of_mem_utf8EncodeChar hb hc, Char.ofNat_toNat]
    rfl

theorem length_utf8Bytes_filter (p : Char → Bool) (text : List Char) :
    (utf8Bytes (text.filter fun c => !p c)).length + (utf8Bytes (text.filter p)).length =
      (utf8Bytes text).length := by
  induction text with
  | nil => rfl
  | cons c text ih =>
    simp only [utf8Bytes] at ih ⊢
    cases held : p c <;>
      simp only [List.filter_cons, held, Bool.not_false, Bool.not_true, Bool.false_eq_true, ↓reduceIte,
        List.flatMap_cons, List.length_append] <;>
      omega

/-! ## The order of bytes -/

/-- A character in front of another has the smaller bytes, whatever follows the two. -/
theorem utf8EncodeChar_lt {c d : Char} (h : c < d) (s t : List UInt8) :
    String.utf8EncodeChar c ++ s < String.utf8EncodeChar d ++ t := by
  have hcd : c.val.toNat < d.val.toNat := UInt32.lt_iff_toNat_lt.1 h
  have hd : d.val.toNat < 1114112 := by rcases d.valid with h | h <;> omega
  have two (n : Nat) : n / 4096 = n / 64 / 64 := by omega
  have three (n : Nat) : n / 262144 = n / 64 / 64 / 64 := by omega
  simp only [String.utf8EncodeChar, two, three]
  -- one case for each pair of lengths: the lead byte tells a shorter encoding from a longer one
  split_ifs <;>
    simp only [List.cons_append, List.nil_append, List.cons_lt_cons_iff, UInt8.lt_iff_toNat_lt,
      ← UInt8.toNat_inj, UInt8.toNat_ofNat'] <;>
    omega

theorem utf8Bytes_lt {s t : List Char} (h : s < t) : utf8Bytes s < utf8Bytes t := by
  induction s generalizing t with
  | nil =>
    cases t with
    | nil => exact absurd h (List.lt_irrefl _)
    | cons d t =>
      simp only [utf8Bytes, List.flatMap_cons, List.flatMap_nil]
      cases hd : String.utf8EncodeChar d with
      | nil => exact absurd hd String.utf8EncodeChar_ne_nil
      | cons b bytes => exact List.nil_lt_cons _ _
  | cons c s ih =>
    cases t with
    | nil => exact absurd h (List.not_lt_nil _)
    | cons d t =>
      rw [utf8Bytes, List.flatMap_cons, utf8Bytes, List.flatMap_cons]
      rcases List.cons_lt_cons_iff.1 h with hcd | ⟨rfl, hst⟩
      · exact utf8EncodeChar_lt hcd _ _
      · exact List.append_left_lt (ih hst)

/-- Texts have the order of their bytes. -/
theorem bytes_lt_of_lt {a b : String} (h : a < b) : a.toUTF8.data.toList < b.toUTF8.data.toList := by
  rw [← utf8Bytes_toList, ← utf8Bytes_toList]
  exact utf8Bytes_lt h

end Periscope.Text
