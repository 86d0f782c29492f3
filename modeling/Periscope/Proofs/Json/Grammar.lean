import Periscope.Proofs.Json.Printed

/-!
# What stands at the front of a text

The reader of values recurs on a bound for the text. A bound that covers what is read is enough, and so is a number of
containers: nothing else of the outcome depends on them. What is read can also be passed over by the lax reader, whose
depth and bound are the length of the text. So a value at the front of a text is a matter of the text and of the depth,
and it has one of seven forms, told by the character that it begins with.
-/

namespace Periscope.Json.Reader

open Text

variable {isStrict isStrict' : Bool} {depth depth' bound bound' : Nat} {s rest after : List Char} {v : Json}

/-! ## Lengths -/

theorem length_skipBlank_le (s : List Char) : (skipBlank s).length ≤ s.length := by
  fun_induction skipBlank s with
  | case1 => exact Nat.le_refl _
  | case2 c rest blank ih => exact Nat.le_succ_of_le ih
  | case3 c rest => exact Nat.le_refl _

@[simp] theorem skipBlank_skipBlank (s : List Char) : skipBlank (skipBlank s) = skipBlank s := by
  fun_induction skipBlank s with
  | case1 => rfl
  | case2 c rest blank ih => exact ih
  | case3 c rest solid => rw [skipBlank, if_neg solid]

theorem length_lt_of_skipBlank {c : Char} (h : skipBlank s = c :: rest) : rest.length < s.length := by
  have := length_skipBlank_le s
  rw [h, List.length_cons] at this
  omega

theorem exists_of_map_pieces {piece : Piece} {found : List Piece}
    (h : ((pieces s).map fun (found, rest) => (piece :: found, rest)) = some (found, rest)) :
    ∃ more, pieces s = some (more, rest) := by
  obtain ⟨⟨more, _⟩, hmore, same⟩ := Option.map_eq_some_iff.1 h
  cases same
  exact ⟨more, hmore⟩

theorem length_lt_of_pieces {found : List Piece} (h : pieces s = some (found, rest)) : rest.length < s.length := by
  fun_induction pieces s generalizing found rest with
  | case1 => cases h
  | case2 rest =>
    cases h
    exact Nat.lt_succ_self _
  | case3 a b c d tail _ ih =>
    obtain ⟨more, hmore⟩ := exists_of_map_pieces h
    exact Nat.lt_of_lt_of_le (ih hmore) (by simp only [List.length_cons]; omega)
  | case4 => cases h
  | case5 e tail _ c _ ih =>
    obtain ⟨more, hmore⟩ := exists_of_map_pieces h
    exact Nat.lt_of_lt_of_le (ih hmore) (by simp only [List.length_cons]; omega)
  | case6 => cases h
  | case7 => cases h
  | case8 c tail _ _ _ _ ih =>
    obtain ⟨more, hmore⟩ := exists_of_map_pieces h
    exact Nat.lt_of_lt_of_le (ih hmore) (by simp only [List.length_cons]; omega)

theorem length_lt_of_string {t : String} (h : string isStrict s = some (t, rest)) : rest.length < s.length := by
  obtain ⟨⟨found, last⟩, hpieces, h⟩ := Option.bind_eq_some_iff.1 h
  have := length_lt_of_pieces hpieces
  dsimp only at h
  split at h
  · cases h
    exact this
  · split at h
    · cases h
    · cases h
      exact this

theorem length_le_of_word {expected : List Char} (h : word expected s = some rest) : rest.length ≤ s.length := by
  unfold word at h
  split at h
  · cases h
    simp
  · cases h

theorem length_digits_le (s : List Char) : (digits s).2.length ≤ s.length :=
  (List.dropWhile_sublist _).length_le

theorem length_digits_lt (h : (digits s).1 ≠ []) : (digits s).2.length < s.length := by
  have whole : (digits s).1 ++ (digits s).2 = s := List.takeWhile_append_dropWhile
  have := List.length_pos_iff.2 h
  rw [← congrArg List.length whole, List.length_append]
  omega

theorem length_le_of_fraction {found : Option (List Char)} (h : fraction s = some (found, rest)) :
    rest.length ≤ s.length := by
  unfold fraction at h
  split at h
  · next tail =>
    dsimp only at h
    split at h
    · cases h
    · cases h
      exact Nat.le_succ_of_le (length_digits_le tail)
  · cases h
    exact Nat.le_refl _

theorem length_unsigned_le (signed : Bool) (s : List Char) : (if signed then s.tail else s).length ≤ s.length := by
  split
  · exact s.tail_sublist.length_le
  · exact Nat.le_refl _

theorem length_le_of_exponentDigits {found : Bool × List Char} (h : exponentDigits s = some (found, rest)) :
    rest.length ≤ s.length := by
  unfold exponentDigits at h
  have hsign := length_unsigned_le (s.head? == some '-' || s.head? == some '+') s
  dsimp only at h
  generalize (if s.head? == some '-' || s.head? == some '+' then s.tail else s) = t at h hsign
  split at h
  · cases h
  · cases h
    exact Nat.le_trans (length_digits_le t) hsign

theorem length_le_of_exponent {found : Option (Bool × List Char)} (h : exponent s = some (found, rest)) :
    rest.length ≤ s.length := by
  unfold exponent at h
  split at h
  case h_3 =>
    cases h
    exact Nat.le_refl _
  all_goals
    obtain ⟨⟨_, _⟩, hdigits, same⟩ := Option.map_eq_some_iff.1 h
    cases same
    exact Nat.le_succ_of_le (length_le_of_exponentDigits hdigits)

theorem length_lt_of_written {w : Number.Written} (h : written s = some (w, rest)) : rest.length < s.length := by
  unfold written at h
  dsimp only at h
  have hsign := length_unsigned_le (s.head? == some '-') s
  generalize (if s.head? == some '-' then s.tail else s) = t at h hsign
  split at h
  · cases h
  · next digit =>
    obtain ⟨⟨fraction, _⟩, hfraction, h⟩ := Option.bind_eq_some_iff.1 h
    obtain ⟨⟨exponent, _⟩, hexponent, h⟩ := Option.bind_eq_some_iff.1 h
    cases h
    dsimp only at hexponent ⊢
    have := length_digits_lt (s := t) fun none => digit (by simp [none])
    have := length_le_of_fraction hfraction
    have := length_le_of_exponent hexponent
    omega

theorem length_lt_of_number {n : Number} (h : number isStrict s = some (n, rest)) : rest.length < s.length := by
  obtain ⟨⟨w, last⟩, hwritten, h⟩ := Option.bind_eq_some_iff.1 h
  have := length_lt_of_written hwritten
  dsimp only at h
  split at h
  · cases h
    exact this
  · split at h
    · cases h
    · cases h
      exact this

/-! ## Forms -/

theorem string_lax {t : String} (lax : isStrict' → isStrict) (h : string isStrict s = some (t, rest)) :
    string isStrict' s = some (t, rest) := by
  obtain ⟨⟨found, last⟩, hpieces, h⟩ := Option.bind_eq_some_iff.1 h
  simp only [string, hpieces, Option.bind_eq_bind, Option.bind_some]
  dsimp only at h
  split at h
  · exact h
  · cases isStrict <;> cases isStrict' <;> simp_all

theorem number_lax {n : Number} (lax : isStrict' → isStrict) (h : number isStrict s = some (n, rest)) :
    number isStrict' s = some (n, rest) := by
  obtain ⟨⟨w, last⟩, hwritten, h⟩ := Option.bind_eq_some_iff.1 h
  simp only [number, hwritten, Option.bind_eq_bind, Option.bind_some]
  dsimp only at h
  split at h
  · exact h
  · cases isStrict <;> cases isStrict' <;> simp_all

theorem number_eq_none {c : Char} (sign : c ≠ '-') (digit : c.isDigit = false) : number isStrict (c :: s) = none := by
  simp [number, written, digits, sign, digit]

/-- What a value at the front of a text is, told by the first character. `items` and `members` are what stands in a
container behind its opening. -/
inductive Form (isStrict : Bool) (items : Nat → List Char → List Json → List Char → Prop)
    (members : Nat → List Char → List (String × Json) → List Char → Prop) :
    Nat → List Char → Json → List Char → Prop where
  | null {depth : Nat} {s rest : List Char} (h : word "ull".toList s = some rest) :
    Form isStrict items members depth ('n' :: s) .null rest
  | yes {depth : Nat} {s rest : List Char} (h : word "rue".toList s = some rest) :
    Form isStrict items members depth ('t' :: s) (.bool true) rest
  | no {depth : Nat} {s rest : List Char} (h : word "alse".toList s = some rest) :
    Form isStrict items members depth ('f' :: s) (.bool false) rest
  | str {depth : Nat} {s rest : List Char} {t : String} (h : string isStrict s = some (t, rest)) :
    Form isStrict items members depth ('"' :: s) (.str t) rest
  | emptyArr {depth : Nat} {s rest : List Char} (close : skipBlank s = ']' :: rest) :
    Form isStrict items members (depth + 1) ('[' :: s) (.arr []) rest
  | arr {depth : Nat} {s rest : List Char} {found : List Json} (h : items depth (skipBlank s) found rest) :
    Form isStrict items members (depth + 1) ('[' :: s) (.arr found) rest
  | emptyObj {depth : Nat} {s rest : List Char} (close : skipBlank s = '\x7D' :: rest) :
    Form isStrict items members (depth + 1) ('\x7B' :: s) (.obj []) rest
  | obj {depth : Nat} {s rest : List Char} {found : List (String × Json)} (h : members depth (skipBlank s) found rest) :
    Form isStrict items members (depth + 1) ('\x7B' :: s) (.obj found) rest
  | num {depth : Nat} {c : Char} {s rest : List Char} {n : Number} (other : c ∉ openers)
    (h : number isStrict (c :: s) = some (n, rest)) : Form isStrict items members depth (c :: s) (.num n) rest

section Forms

variable {items items' : Nat → List Char → List Json → List Char → Prop}
  {members members' : Nat → List Char → List (String × Json) → List Char → Prop}

theorem Form.length_lt (h : Form isStrict items members depth s v rest)
    (hitems : ∀ d t found, items d t found rest → rest.length < t.length)
    (hmembers : ∀ d t found, members d t found rest → rest.length < t.length) : rest.length < s.length := by
  cases h with
  | null h | yes h | no h => exact Nat.lt_succ_of_le (length_le_of_word h)
  | str h => exact Nat.lt_succ_of_lt (length_lt_of_string h)
  | emptyArr close | emptyObj close => exact Nat.lt_succ_of_lt (length_lt_of_skipBlank close)
  | arr h => exact Nat.lt_succ_of_lt (Nat.lt_of_lt_of_le (hitems _ _ _ h) (length_skipBlank_le _))
  | obj h => exact Nat.lt_succ_of_lt (Nat.lt_of_lt_of_le (hmembers _ _ _ h) (length_skipBlank_le _))
  | num _ h => exact length_lt_of_number h

theorem Form.number_eq_none (h : Form isStrict items members depth s v rest) (other : ∀ n, v ≠ .num n) :
    number isStrict s = none := by
  cases h with
  | num => exact absurd rfl (other _)
  | _ => exact Reader.number_eq_none (by decide) rfl

/-- A form stays one for a laxer reader and for containers that hold as much, `deep` containers at least. -/
theorem Form.mono (h : Form isStrict items members depth s v rest) (lax : isStrict' → isStrict)
    (deep : ∀ d, depth = d + 1 → ∃ d', depth' = d' + 1 ∧
      (∀ t found, t.length < s.length → items d t found rest → items' d' t found rest) ∧
      ∀ t found, t.length < s.length → members d t found rest → members' d' t found rest) :
    Form isStrict' items' members' depth' s v rest := by
  have shorter (c : Char) (t : List Char) : (skipBlank t).length < (c :: t).length :=
    Nat.lt_succ_of_le (length_skipBlank_le t)
  cases h with
  | null h => exact .null h
  | yes h => exact .yes h
  | no h => exact .no h
  | str h => exact .str (string_lax lax h)
  | emptyArr close =>
    obtain ⟨d', rfl, -⟩ := deep _ rfl
    exact .emptyArr close
  | arr h =>
    obtain ⟨d', rfl, hitems, -⟩ := deep _ rfl
    exact .arr (hitems _ _ (shorter _ _) h)
  | emptyObj close =>
    obtain ⟨d', rfl, -⟩ := deep _ rfl
    exact .emptyObj close
  | obj h =>
    obtain ⟨d', rfl, -, hmembers⟩ := deep _ rfl
    exact .obj (hmembers _ _ (shorter _ _) h)
  | num other h => exact .num other (number_lax lax h)

end Forms

theorem items_close (s : List Char) : Reader.items isStrict depth bound (']' :: s) = none := by
  have number : number isStrict (']' :: s) = none := number_eq_none (by decide) rfl
  have value (bound : Nat) : value isStrict depth bound (']' :: s) = none := by
    cases bound with
    | zero => rfl
    | succ bound =>
      rw [value, skipBlank, if_neg (by decide)]
      simp [number]
  cases bound with
  | zero => rfl
  | succ bound =>
    rw [Reader.items, value]
    rfl

theorem members_close (s : List Char) : Reader.members isStrict depth bound ('\x7D' :: s) = none := by
  cases bound with
  | zero => rfl
  | succ bound =>
    rw [Reader.members, skipBlank, if_neg (by decide)]
    simp

theorem form_of_value (h : value isStrict depth (bound + 1) s = some (v, rest)) :
    Form isStrict (fun d t found rest => Reader.items isStrict d bound t = some (found, rest))
      (fun d t found rest => Reader.members isStrict d bound t = some (found, rest)) depth (skipBlank s) v rest := by
  rw [value] at h
  generalize skipBlank s = t at h
  split at h
  · cases h
  · obtain ⟨_, hword, same⟩ := Option.map_eq_some_iff.1 h
    cases same
    exact .null hword
  · obtain ⟨_, hword, same⟩ := Option.map_eq_some_iff.1 h
    cases same
    exact .yes hword
  · obtain ⟨_, hword, same⟩ := Option.map_eq_some_iff.1 h
    cases same
    exact .no hword
  · obtain ⟨⟨_, _⟩, hstring, same⟩ := Option.map_eq_some_iff.1 h
    cases same
    exact .str hstring
  · split at h
    · cases h
    · split at h
      · next close =>
        cases h
        exact .emptyArr close
      · obtain ⟨⟨_, _⟩, hitems, same⟩ := Option.map_eq_some_iff.1 h
        cases same
        exact .arr hitems
  · split at h
    · cases h
    · split at h
      · next close =>
        cases h
        exact .emptyObj close
      · obtain ⟨⟨_, _⟩, hmembers, same⟩ := Option.map_eq_some_iff.1 h
        cases same
        exact .obj hmembers
  · next nonempty _ _ _ _ _ _ =>
    obtain ⟨⟨n, _⟩, hnumber, same⟩ := Option.map_eq_some_iff.1 h
    cases same
    cases t with
    | nil => exact absurd rfl nonempty
    | cons c t => exact .num (by simp_all [openers]) hnumber

theorem value_of_form
    (h : Form isStrict (fun d t found rest => Reader.items isStrict d bound t = some (found, rest))
      (fun d t found rest => Reader.members isStrict d bound t = some (found, rest)) depth (skipBlank s) v rest) :
    value isStrict depth (bound + 1) s = some (v, rest) := by
  rw [value]
  generalize skipBlank s = t at h
  cases h with
  | null h | yes h | no h | str h => simp only [h, Option.map_some]
  | emptyArr close | emptyObj close => simp only [close]
  | @arr depth s rest found h =>
    have more (t : List Char) : skipBlank s ≠ ']' :: t := fun close => by simp [close, items_close] at h
    simp [h]
  | @obj depth s rest found h =>
    have more (t : List Char) : skipBlank s ≠ '\x7D' :: t := fun close => by simp [close, members_close] at h
    simp [h]
  | num other h =>
    simp only [openers, List.mem_cons, not_or] at other
    obtain ⟨n, t, f, quote, bracket, brace, -⟩ := other
    simp [n, t, f, quote, bracket, brace, h]

/-! ## Bounds -/

/-- What stands behind an item: the closing bracket, or a comma and other items. -/
theorem items_succ {found : List Json} :
    Reader.items isStrict depth (bound + 1) s = some (found, rest) ↔
      ∃ v after more, value isStrict depth bound s = some (v, after) ∧ found = v :: more ∧
        (skipBlank after = ']' :: rest ∧ more = [] ∨
          ∃ next, skipBlank after = ',' :: next ∧ Reader.items isStrict depth bound next = some (more, rest)) := by
  rw [Reader.items]
  constructor
  · intro h
    obtain ⟨⟨v, after⟩, hv, h⟩ := Option.bind_eq_some_iff.1 h
    dsimp only at h
    split at h
    · next comma =>
      obtain ⟨⟨more, _⟩, hmore, h⟩ := Option.bind_eq_some_iff.1 h
      cases h
      exact ⟨v, after, more, hv, rfl, .inr ⟨_, comma, hmore⟩⟩
    · next close =>
      cases h
      exact ⟨v, after, [], hv, rfl, .inl ⟨close, rfl⟩⟩
    · cases h
  · rintro ⟨v, after, more, hv, rfl, ⟨close, rfl⟩ | ⟨next, comma, hmore⟩⟩
    · simp [hv, close]
    · simp [hv, comma, hmore]

/-- What stands behind the value of a member: the closing brace, or a comma and other members. -/
theorem members_succ {found : List (String × Json)} :
    Reader.members isStrict depth (bound + 1) s = some (found, rest) ↔
      ∃ opened key named given v after more, skipBlank s = '"' :: opened ∧
        string isStrict opened = some (key, named) ∧ skipBlank named = ':' :: given ∧
        value isStrict depth bound given = some (v, after) ∧ found = (key, v) :: more ∧
        (skipBlank after = '\x7D' :: rest ∧ more = [] ∨
          ∃ next, skipBlank after = ',' :: next ∧ Reader.members isStrict depth bound next = some (more, rest)) := by
  rw [Reader.members]
  constructor
  · intro h
    split at h
    · next opened quote =>
      obtain ⟨⟨key, named⟩, hkey, h⟩ := Option.bind_eq_some_iff.1 h
      dsimp only at h
      split at h
      · next given colon =>
        obtain ⟨⟨v, after⟩, hv, h⟩ := Option.bind_eq_some_iff.1 h
        dsimp only at h
        split at h
        · next comma =>
          obtain ⟨⟨more, _⟩, hmore, h⟩ := Option.bind_eq_some_iff.1 h
          cases h
          exact ⟨opened, key, named, given, v, after, more, quote, hkey, colon, hv, rfl, .inr ⟨_, comma, hmore⟩⟩
        · next close =>
          cases h
          exact ⟨opened, key, named, given, v, after, [], quote, hkey, colon, hv, rfl, .inl ⟨close, rfl⟩⟩
        · cases h
      · cases h
    · cases h
  · rintro ⟨opened, key, named, given, v, after, more, quote, hkey, colon, hv, rfl, ⟨close, rfl⟩ | ⟨next, comma, hmore⟩⟩
    · simp [quote, hkey, colon, hv, close]
    · simp [quote, hkey, colon, hv, comma, hmore]

/-- What stands behind a key and its colon. -/
theorem length_lt_of_key {opened named given : List Char} {key : String} (quote : skipBlank s = '"' :: opened)
    (hkey : string isStrict opened = some (key, named)) (colon : skipBlank named = ':' :: given) :
    given.length < s.length :=
  Nat.lt_trans (length_lt_of_skipBlank colon) (Nat.lt_trans (length_lt_of_string hkey) (length_lt_of_skipBlank quote))

/-- What stands behind a value in a container: the closing bracket, or a comma and what goes on. -/
theorem length_lt_of_behind {c : Char} {isLast : Prop} {goesOn : List Char → Prop}
    (behind : skipBlank after = c :: rest ∧ isLast ∨ ∃ next, skipBlank after = ',' :: next ∧ goesOn next)
    (others : ∀ next, goesOn next → rest.length < next.length) : rest.length < after.length := by
  obtain ⟨close, -⟩ | ⟨next, comma, hmore⟩ := behind
  · exact length_lt_of_skipBlank close
  · exact Nat.lt_trans (others next hmore) (length_lt_of_skipBlank comma)

mutual

theorem length_lt_of_value : (bound : Nat) → {depth : Nat} → {s rest : List Char} → {v : Json} →
    value isStrict depth bound s = some (v, rest) → rest.length < s.length
  | 0, _, _, _, _, h => by cases h
  | bound + 1, _, s, _, _, h => by
    have front := (form_of_value h).length_lt (fun _ _ _ => length_lt_of_items bound)
      (fun _ _ _ => length_lt_of_members bound)
    exact Nat.lt_of_lt_of_le front (length_skipBlank_le s)

theorem length_lt_of_items : (bound : Nat) → {depth : Nat} → {s rest : List Char} → {found : List Json} →
    Reader.items isStrict depth bound s = some (found, rest) → rest.length < s.length
  | 0, _, _, _, _, h => by cases h
  | bound + 1, _, s, _, _, h => by
    obtain ⟨v, after, more, hv, -, behind⟩ := items_succ.1 h
    exact Nat.lt_trans (length_lt_of_behind behind fun _ => length_lt_of_items bound) (length_lt_of_value bound hv)

theorem length_lt_of_members : (bound : Nat) → {depth : Nat} → {s rest : List Char} →
    {found : List (String × Json)} →
    Reader.members isStrict depth bound s = some (found, rest) → rest.length < s.length
  | 0, _, _, _, _, h => by cases h
  | bound + 1, _, s, _, _, h => by
    obtain ⟨opened, key, named, given, v, after, more, quote, hkey, colon, hv, -, behind⟩ := members_succ.1 h
    have front := Nat.lt_trans (length_lt_of_value bound hv) (length_lt_of_key quote hkey colon)
    exact Nat.lt_trans (length_lt_of_behind behind fun _ => length_lt_of_members bound) front

end

mutual

/-- A value is read alike by a laxer reader, as long as its bound, and the number of containers that it may open, cover
what is read. -/
theorem value_of_enough (lax : isStrict' → isStrict) : (bound : Nat) → {depth depth' bound' : Nat} →
    {s rest : List Char} → {v : Json} → value isStrict depth bound s = some (v, rest) →
    depth ≤ depth' ∨ s.length ≤ rest.length + depth' → s.length ≤ rest.length + bound' →
    value isStrict' depth' bound' s = some (v, rest)
  | 0, _, _, _, _, _, _, h, _, _ => by cases h
  | bound + 1, depth, depth', bound', s, rest, v, h, deep, enough => by
    have consumed := length_lt_of_value _ h
    have front := length_skipBlank_le s
    obtain ⟨bound', rfl⟩ : ∃ b, bound' = b + 1 := Nat.exists_eq_succ_of_ne_zero (by omega)
    refine value_of_form ((form_of_value h).mono lax ?_)
    rintro d rfl
    obtain ⟨d', rfl⟩ : ∃ d', depth' = d' + 1 := Nat.exists_eq_succ_of_ne_zero (by omega)
    exact ⟨d', rfl, fun t found shorter h => items_of_enough lax bound h (by omega) (by omega),
      fun t found shorter h => members_of_enough lax bound h (by omega) (by omega)⟩

theorem items_of_enough (lax : isStrict' → isStrict) : (bound : Nat) → {depth depth' bound' : Nat} →
    {s rest : List Char} → {found : List Json} → Reader.items isStrict depth bound s = some (found, rest) →
    depth ≤ depth' ∨ s.length ≤ rest.length + depth' → s.length ≤ rest.length + bound' →
    Reader.items isStrict' depth' bound' s = some (found, rest)
  | 0, _, _, _, _, _, _, h, _, _ => by cases h
  | bound + 1, depth, depth', bound', s, rest, v, h, deep, enough => by
    have consumed := length_lt_of_items _ h
    obtain ⟨bound', rfl⟩ : ∃ b, bound' = b + 1 := Nat.exists_eq_succ_of_ne_zero (by omega)
    obtain ⟨v, after, more, hv, rfl, behind⟩ := items_succ.1 h
    have first := length_lt_of_value _ hv
    refine items_succ.2 ⟨v, after, more, ?_, rfl, ?_⟩
    · have shorter := length_lt_of_behind behind fun _ => length_lt_of_items _
      exact value_of_enough lax bound hv (by omega) (by omega)
    · refine behind.imp_right fun ⟨next, comma, hmore⟩ => ⟨next, comma, ?_⟩
      have shorter := length_lt_of_skipBlank comma
      exact items_of_enough lax bound hmore (by omega) (by omega)

theorem members_of_enough (lax : isStrict' → isStrict) : (bound : Nat) → {depth depth' bound' : Nat} →
    {s rest : List Char} → {found : List (String × Json)} →
    Reader.members isStrict depth bound s = some (found, rest) →
    depth ≤ depth' ∨ s.length ≤ rest.length + depth' → s.length ≤ rest.length + bound' →
    Reader.members isStrict' depth' bound' s = some (found, rest)
  | 0, _, _, _, _, _, _, h, _, _ => by cases h
  | bound + 1, depth, depth', bound', s, rest, v, h, deep, enough => by
    have consumed := length_lt_of_members _ h
    obtain ⟨bound', rfl⟩ : ∃ b, bound' = b + 1 := Nat.exists_eq_succ_of_ne_zero (by omega)
    obtain ⟨opened, key, named, given, v, after, more, quote, hkey, colon, hv, rfl, behind⟩ := members_succ.1 h
    have first := length_lt_of_value _ hv
    have before := length_lt_of_key quote hkey colon
    refine members_succ.2 ⟨opened, key, named, given, v, after, more, quote, string_lax lax hkey, colon, ?_, rfl, ?_⟩
    · have shorter := length_lt_of_behind behind fun _ => length_lt_of_members _
      exact value_of_enough lax bound hv (by omega) (by omega)
    · refine behind.imp_right fun ⟨next, comma, hmore⟩ => ⟨next, comma, ?_⟩
      have shorter := length_lt_of_skipBlank comma
      exact members_of_enough lax bound hmore (by omega) (by omega)

end

/-! ## Fronts -/

/-- A value stands at the front of a text, after blanks, with the rest behind it. -/
def Front (depth : Nat) (s : List Char) (v : Json) (rest : List Char) : Prop :=
  ∃ bound, value true depth bound s = some (v, rest)

/-- Items stand one after the other, up to the closing bracket. -/
inductive Items (depth : Nat) : List Char → List Json → List Char → Prop where
  | last {s after rest : List Char} {v : Json} (first : Front depth s v after) (close : skipBlank after = ']' :: rest) :
    Items depth s [v] rest
  | more {s after next rest : List Char} {v : Json} {found : List Json} (first : Front depth s v after)
    (comma : skipBlank after = ',' :: next) (others : Items depth next found rest) : Items depth s (v :: found) rest

/-- A member stands at the front of a text: a key, a colon and a value. -/
def Named (depth : Nat) (s : List Char) (key : String) (v : Json) (after : List Char) : Prop :=
  ∃ opened named given, skipBlank s = '"' :: opened ∧ string true opened = some (key, named) ∧
    skipBlank named = ':' :: given ∧ Front depth given v after

/-- Members stand one after the other, up to the closing brace. -/
inductive Members (depth : Nat) : List Char → List (String × Json) → List Char → Prop where
  | last {s after rest : List Char} {key : String} {v : Json} (first : Named depth s key v after)
    (close : skipBlank after = '\x7D' :: rest) : Members depth s [(key, v)] rest
  | more {s after next rest : List Char} {key : String} {v : Json} {found : List (String × Json)}
    (first : Named depth s key v after) (comma : skipBlank after = ',' :: next)
    (others : Members depth next found rest) : Members depth s ((key, v) :: found) rest

theorem Items.exists_front {found : List Json} (h : Items depth s found rest) : ∃ v after, Front depth s v after := by
  cases h with
  | last first | more first => exact ⟨_, _, first⟩

theorem Items.of_items {found : List Json} (h : Reader.items true depth bound s = some (found, rest)) :
    Items depth s found rest := by
  induction bound generalizing s found with
  | zero => cases h
  | succ bound ih =>
    obtain ⟨v, after, more, hv, rfl, ⟨close, rfl⟩ | ⟨next, comma, hmore⟩⟩ := items_succ.1 h
    · exact .last ⟨bound, hv⟩ close
    · exact .more ⟨bound, hv⟩ comma (ih hmore)

theorem Members.exists_quote {found : List (String × Json)} (h : Members depth s found rest) :
    ∃ opened, skipBlank s = '"' :: opened := by
  cases h with
  | last first | more first =>
    obtain ⟨opened, named, given, quote, -⟩ := first
    exact ⟨opened, quote⟩

theorem Members.of_members {found : List (String × Json)}
    (h : Reader.members true depth bound s = some (found, rest)) : Members depth s found rest := by
  induction bound generalizing s found with
  | zero => cases h
  | succ bound ih =>
    obtain ⟨opened, key, named, given, v, after, more, quote, hkey, colon, hv, rfl, behind⟩ := members_succ.1 h
    have first : Named depth s key v after := ⟨opened, named, given, quote, hkey, colon, bound, hv⟩
    obtain ⟨close, rfl⟩ | ⟨next, comma, hmore⟩ := behind
    · exact .last first close
    · exact .more first comma (ih hmore)

theorem Front.form (h : Front depth s v rest) : Form true Items Members depth (skipBlank s) v rest := by
  obtain ⟨bound, h⟩ := h
  cases bound with
  | zero => cases h
  | succ bound =>
    exact (form_of_value h).mono id fun d hd =>
      ⟨d, hd, fun _ _ _ => Items.of_items, fun _ _ _ => Members.of_members⟩

/-- No value begins with a closing bracket or a comma. -/
theorem Front.exists_solid (h : Front depth s v rest) : ∃ c t, skipBlank s = c :: t ∧ c ≠ ']' ∧ c ≠ ',' := by
  have form := h.form
  generalize skipBlank s = t at form
  cases form with
  | @num _ c t _ n _ h =>
    refine ⟨c, t, rfl, ?_, ?_⟩ <;> rintro rfl <;>
      cases (number_eq_none (by decide) rfl).symm.trans h
  | _ => exact ⟨_, _, rfl, by decide, by decide⟩

theorem Front.value (h : Front depth s v rest) : Reader.value true depth (s.length + 1) s = some (v, rest) := by
  obtain ⟨bound, h⟩ := h
  exact value_of_enough id bound h (.inl (Nat.le_refl _)) (by omega)

theorem Front.length_lt (h : Front depth s v rest) : rest.length < s.length := length_lt_of_value _ h.value

theorem Named.length_lt {key : String} (h : Named depth s key v after) : after.length < s.length := by
  obtain ⟨opened, named, given, quote, hkey, colon, first⟩ := h
  exact Nat.lt_trans first.length_lt (length_lt_of_key quote hkey colon)

/-- What is read can be passed over. -/
theorem Front.skipValue (h : Front depth s v rest) : Reader.skipValue s = some rest := by
  have lax : Reader.value false s.length (s.length + 1) s = some (v, rest) :=
    value_of_enough (by simp) _ h.value (by omega) (by omega)
  simp [Reader.skipValue, lax]

theorem Front.of_skipBlank (h : Front depth s v rest) : Front depth (skipBlank s) v rest := by
  obtain ⟨bound, h⟩ := h
  cases bound with
  | zero => cases h
  | succ bound =>
    refine ⟨bound + 1, value_of_form ?_⟩
    rw [skipBlank_skipBlank]
    exact form_of_value h

end Periscope.Json.Reader
