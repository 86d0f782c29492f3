import Periscope.Json.Printer
import Periscope.Json.Reader

/-!
# What is printed is read back

The compact form of a value without numbers denotes the value, as long as its containers nest no deeper than the
reader goes. Main result: `written?_compact`.
-/

namespace Periscope.Json

/-- The value holds no number, and its containers nest at most so deep. -/
def Numberless : Nat → Json → Prop
  | depth + 1, .arr items => ∀ v ∈ items, Numberless depth v
  | depth + 1, .obj members => ∀ m ∈ members, Numberless depth m.2
  | 0, .arr _ => False
  | 0, .obj _ => False
  | _, .num _ => False
  | _, _ => True

namespace Reader

open Text

variable {rest : List Char}

/-! ## Strings -/

theorem hexValue_hexDigit : ∀ n < 32,
    ['0', '0', hexDigit (n / 16), hexDigit (n % 16)].all isHex ∧
      hexValue ['0', '0', hexDigit (n / 16), hexDigit (n % 16)] = n := by
  decide

/-- What is read of an escaped character: the character, or the unit of a control. -/
theorem exists_piece (c : Char) : ∃ piece,
    (∀ rest, pieces (escapeChar c ++ rest) = (pieces rest).map fun (found, rest) => (piece :: found, rest)) ∧
      ∀ found, joinUnits (piece :: found) = (joinUnits found).map (c :: ·) := by
  unfold escapeChar
  split
  case h_8 =>
    split
    · next control =>
      have small : c.toNat < 32 := control
      obtain ⟨hex, value⟩ := hexValue_hexDigit c.toNat small
      refine ⟨.unit c.toNat, fun rest => ?_, fun found => ?_⟩
      · simp only [List.cons_append, List.nil_append, pieces, hex, value, ↓reduceIte]
      · have plain : (decide (c.toNat < 0xD800) || decide (0xDFFF < c.toNat)) = true := by
          simp; omega
        rw [joinUnits.eq_def]
        simp only [plain, ↓reduceIte, Char.ofNat_toNat]
    · next hquote hbackslash _ _ _ _ _ plain =>
      refine ⟨.char c, fun rest => ?_, fun found => rfl⟩
      rw [List.singleton_append, pieces, if_neg (by simpa using ⟨by simpa using plain, hbackslash⟩)]
      · exact hquote
      · exact fun _ _ _ _ _ h _ => hbackslash h
      · exact fun _ _ h _ => hbackslash h
  all_goals exact ⟨.char _, fun rest => by simp [pieces, shortEscape?], fun found => rfl⟩

theorem exists_pieces (s rest : List Char) :
    ∃ found, pieces (s.flatMap escapeChar ++ '"' :: rest) = some (found, rest) ∧ joinUnits found = some s := by
  induction s with
  | nil => exact ⟨[], by rw [List.flatMap_nil, List.nil_append, pieces], rfl⟩
  | cons c s ih =>
    obtain ⟨found, hread, hjoin⟩ := ih
    obtain ⟨piece, hpiece, htext⟩ := exists_piece c
    refine ⟨piece :: found, ?_, by rw [htext, hjoin, Option.map_some]⟩
    rw [List.flatMap_cons, List.append_assoc, hpiece, hread, Option.map_some]

/-- A text between quotes is read back. -/
theorem string_quote (s : String) (isStrict : Bool) :
    string isStrict (s.toList.flatMap escapeChar ++ '"' :: rest) = some (s, rest) := by
  obtain ⟨found, hread, hjoin⟩ := exists_pieces s.toList rest
  simp [string, hread, hjoin]

theorem toList_quote_append (s : String) :
    (quote s).toList ++ rest = '"' :: (s.toList.flatMap escapeChar ++ '"' :: rest) := by
  simp [quote]

/-! ## Items and members -/

variable {isStrict : Bool} {depth bound : Nat} {s after : List Char} {v : Json}

theorem items_last (h : value isStrict depth bound s = some (v, ']' :: after)) :
    Reader.items isStrict depth (bound + 1) s = some ([v], after) := by
  rw [Reader.items, h]
  rfl

theorem items_more (h : value isStrict depth bound s = some (v, ',' :: after)) {found : List Json}
    (hmore : Reader.items isStrict depth bound after = some (found, rest)) :
    Reader.items isStrict depth (bound + 1) s = some (v :: found, rest) := by
  rw [Reader.items, h]
  simp [skipBlank, hmore]

theorem members_last (key : String) (h : value isStrict depth bound s = some (v, '\x7D' :: after)) :
    Reader.members isStrict depth (bound + 1) ((quote key).toList ++ ':' :: s) = some ([(key, v)], after) := by
  rw [Reader.members, toList_quote_append]
  simp [skipBlank, string_quote, h]

theorem members_more (key : String) (h : value isStrict depth bound s = some (v, ',' :: after))
    {found : List (String × Json)} (hmore : Reader.members isStrict depth bound after = some (found, rest)) :
    Reader.members isStrict depth (bound + 1) ((quote key).toList ++ ':' :: s) = some ((key, v) :: found, rest) := by
  rw [Reader.members, toList_quote_append]
  simp [skipBlank, string_quote, h, hmore]

/-- The value is read back from its compact form, whatever follows it; the length of the form is bound enough. -/
def ReadBack (isStrict : Bool) (depth : Nat) (v : Json) : Prop :=
  ∀ bound rest, v.compact.length ≤ bound → value isStrict depth bound (v.compact.toList ++ rest) = some (v, rest)

theorem items_compact {items : List Json} (hne : items ≠ []) (hitems : ∀ v ∈ items, ReadBack isStrict depth v)
    (hbound : (",".intercalate (compactItems items)).length < bound) :
    Reader.items isStrict depth bound ((",".intercalate (compactItems items)).toList ++ ']' :: rest) =
      some (items, rest) := by
  induction items generalizing bound with
  | nil => exact absurd rfl hne
  | cons v more ih =>
    obtain ⟨hv, hmore⟩ := List.forall_mem_cons.1 hitems
    obtain ⟨bound, rfl⟩ := Nat.exists_eq_succ_of_ne_zero (Nat.ne_zero_of_lt hbound)
    -- a comma or the closing bracket uses up the step of the bound that the list takes
    cases more with
    | nil =>
      rw [compactItems, compactItems, String.intercalate_singleton] at hbound ⊢
      exact items_last (hv _ _ (by omega))
    | cons w more =>
      rw [compactItems, String.intercalate_cons_of_ne_nil (by simp [compactItems])] at hbound ⊢
      simp only [String.length_append, show ",".length = 1 from rfl] at hbound
      simp only [String.toList_append, List.append_assoc]
      exact items_more (hv _ _ (by omega)) (ih (by simp) hmore (by omega))

theorem members_compact {members : List (String × Json)} (hne : members ≠ [])
    (hmembers : ∀ m ∈ members, ReadBack isStrict depth m.2)
    (hbound : (",".intercalate (compactMembers members)).length < bound) :
    Reader.members isStrict depth bound ((",".intercalate (compactMembers members)).toList ++ '\x7D' :: rest) =
      some (members, rest) := by
  induction members generalizing bound with
  | nil => exact absurd rfl hne
  | cons m more ih =>
    obtain ⟨hm, hmore⟩ := List.forall_mem_cons.1 hmembers
    obtain ⟨bound, rfl⟩ := Nat.exists_eq_succ_of_ne_zero (Nat.ne_zero_of_lt hbound)
    obtain ⟨key, v⟩ := m
    cases more with
    | nil =>
      rw [compactMembers, compactMembers, String.intercalate_singleton] at hbound ⊢
      simp only [String.length_append] at hbound
      simp only [String.toList_append, List.append_assoc]
      exact members_last key (hm _ _ (by dsimp only; omega))
    | cons w more =>
      rw [compactMembers, String.intercalate_cons_of_ne_nil (by simp [compactMembers])] at hbound ⊢
      simp only [String.length_append, show ",".length = 1 from rfl] at hbound
      simp only [String.toList_append, List.append_assoc]
      exact members_more key (hm _ _ (by dsimp only; omega)) (ih (by simp) hmore (by omega))

/-! ## Values -/

/-- The characters that the compact form of a value without numbers begins with. -/
def openers : List Char := ['n', 't', 'f', '"', '[', '\x7B']

theorem exists_opener (h : Numberless depth v) : ∃ c ∈ openers, ∃ back, v.compact.toList = c :: back := by
  cases v with
  | null => exact ⟨'n', by decide, _, rfl⟩
  | bool b => cases b <;> exact ⟨_, by decide, _, rfl⟩
  | num => cases depth <;> cases h
  | str s => exact ⟨'"', by decide, s.toList.flatMap escapeChar ++ ['"'], by simp [compact, quote]⟩
  | arr items => exact ⟨'[', by decide, _, by simp [compact]; rfl⟩
  | obj members => exact ⟨'\x7B', by decide, _, by simp [compact]; rfl⟩

theorem skipBlank_opener {c : Char} (h : c ∈ openers) : skipBlank (c :: s) = c :: s := by
  revert c
  simp [openers, skipBlank]

theorem value_arr {c : Char} (h : c ∈ openers) :
    value isStrict (depth + 1) (bound + 1) ('[' :: c :: s) =
      (Reader.items isStrict depth bound (c :: s)).map fun (found, rest) => (.arr found, rest) := by
  have other : c ≠ ']' := by
    rintro rfl
    revert h
    decide
  rw [value, skipBlank_opener (by decide)]
  simp [skipBlank_opener h, other]

theorem value_obj :
    value isStrict (depth + 1) (bound + 1) ('\x7B' :: '"' :: s) =
      (Reader.members isStrict depth bound ('"' :: s)).map fun (found, rest) => (.obj found, rest) := by
  rw [value]
  simp [skipBlank]

theorem readBack_null : ReadBack isStrict depth .null := by
  intro bound rest hbound
  obtain ⟨bound, rfl⟩ := Nat.exists_eq_succ_of_ne_zero (Nat.ne_zero_of_lt hbound)
  rfl

theorem readBack_bool (b : Bool) : ReadBack isStrict depth (.bool b) := by
  intro bound rest hbound
  cases b <;>
    obtain ⟨bound, rfl⟩ := Nat.exists_eq_succ_of_ne_zero (Nat.ne_zero_of_lt hbound) <;>
    rfl

theorem readBack_str (s : String) : ReadBack isStrict depth (.str s) := by
  intro bound rest hbound
  simp only [compact, quote, String.length_ofList, List.length_append, List.length_cons] at hbound ⊢
  obtain ⟨bound, rfl⟩ := Nat.exists_eq_succ_of_ne_zero (Nat.ne_zero_of_lt hbound)
  rw [← quote, toList_quote_append, value, skipBlank_opener (by decide)]
  simp [string_quote]

theorem readBack_arr {items : List Json} (h : ∀ v ∈ items, Numberless depth v)
    (hitems : ∀ v ∈ items, ReadBack isStrict depth v) : ReadBack isStrict (depth + 1) (.arr items) := by
  intro bound rest hbound
  simp only [compact, String.length_append, show "[".length = 1 from rfl, show "]".length = 1 from rfl] at hbound
  obtain ⟨bound, rfl⟩ := Nat.exists_eq_succ_of_ne_zero (Nat.ne_zero_of_lt hbound)
  cases items with
  | nil => rfl
  | cons v more =>
    have hread : Reader.items isStrict depth bound
        ((",".intercalate (compactItems (v :: more))).toList ++ ']' :: rest) = some (v :: more, rest) :=
      items_compact (List.cons_ne_nil v more) hitems (by omega)
    obtain ⟨c, hc, back, hopen⟩ := exists_opener (h v List.mem_cons_self)
    obtain ⟨back, hopen⟩ : ∃ back, (",".intercalate (compactItems (v :: more))).toList = c :: back := by
      cases more <;> simp [compactItems, hopen]
    simp only [compact, String.toList_append, List.append_assoc, hopen, List.cons_append] at hread ⊢
    exact (value_arr hc).trans (congrArg (Option.map _) hread)

theorem readBack_obj {members : List (String × Json)} (hmembers : ∀ m ∈ members, ReadBack isStrict depth m.2) :
    ReadBack isStrict (depth + 1) (.obj members) := by
  intro bound rest hbound
  simp only [compact, String.length_append, show "\x7B".length = 1 from rfl, show "\x7D".length = 1 from rfl] at hbound
  obtain ⟨bound, rfl⟩ := Nat.exists_eq_succ_of_ne_zero (Nat.ne_zero_of_lt hbound)
  cases members with
  | nil => rfl
  | cons m more =>
    have hread : Reader.members isStrict depth bound
        ((",".intercalate (compactMembers (m :: more))).toList ++ '\x7D' :: rest) = some (m :: more, rest) :=
      members_compact (List.cons_ne_nil m more) hmembers (by omega)
    obtain ⟨back, hopen⟩ : ∃ back, (",".intercalate (compactMembers (m :: more))).toList = '"' :: back := by
      cases more <;> simp [compactMembers, quote]
    simp only [compact, String.toList_append, List.append_assoc, hopen, List.cons_append] at hread ⊢
    exact value_obj.trans (congrArg (Option.map _) hread)

theorem readBack_of_numberless : (depth : Nat) → {v : Json} → Numberless depth v → ReadBack isStrict depth v
  | _, .null, _ => readBack_null
  | _, .bool b, _ => readBack_bool b
  | _, .str s, _ => readBack_str s
  | 0, .num _, h => h.elim
  | _ + 1, .num _, h => h.elim
  | depth + 1, .arr _, h => readBack_arr h fun v hv => readBack_of_numberless depth (h v hv)
  | depth + 1, .obj _, h => readBack_obj fun m hm => readBack_of_numberless depth (h m hm)

end Reader

/-- A value without numbers is read back from its compact form. -/
theorem written?_compact {v : Json} (h : Numberless Reader.maxDepth v) : written? v.compact = some v := by
  have hback : Reader.ReadBack true Reader.maxDepth v := Reader.readBack_of_numberless _ h
  have hread := hback (v.compact.toList.length + 1) [] (Nat.le_succ_of_le (Nat.le_of_eq String.length_toList.symm))
  rw [List.append_nil] at hread
  rw [written?, Reader.document, hread]
  rfl

end Periscope.Json
