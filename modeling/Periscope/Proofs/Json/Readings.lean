import Periscope.Json.ShapeReader
import Periscope.Proofs.Json.Grammar

/-!
# Reading a text and fitting its value

A text is read by a shape from left to right, and a value is fitted to a shape. Where the text is JSON, both come to the
same: what is read is how the value of the text fits, with the same error. One misfit alone is a fault of the text where
a text is read, that an array goes on behind the last field of its record. Main result: `ofText_eq`.
-/

namespace Periscope.Json

/-- The fault of a text whose value does not fit. -/
def TextError.ofFit : FitError → TextError
  | .wrongLength length expected =>
    if expected = "fewer elements in array" then .malformed else .misfit (.wrongLength length expected)
  | e => .misfit e

namespace Shape

open Reader

variable {α β : Type} {depth bound : Nat} {s t rest : List Char} {v : Json} {fields : Fields}

/-- What is read of a text, from how its value fits and from what stands behind it. -/
def reading (rest : List Char) : Except FitError α → Except TextError (α × List Char)
  | .ok a => .ok (a, rest)
  | .error e => .error (.ofFit e)

theorem map_reading (f : α → β) (x : Except FitError α) :
    ((reading rest x).map fun (a, rest) => (f a, rest)) = reading rest (x.map f) := by
  cases x <;> rfl

/-! ## Values without parts -/

theorem unexpected_of_value {expected : String} (h : value true 0 (s.length + 1) s = some (v, rest)) :
    unexpected (α := α × List Char) expected s = reading rest (misfit v expected) := by
  have closed {c : Char} (t : List Char) (opens : c = '[' ∨ c = '\x7B') : s ≠ c :: t := by
    rintro rfl
    rcases opens with rfl | rfl <;> rw [value, skipBlank, if_neg (by decide)] at h <;> cases h
  unfold unexpected
  split
  · exact absurd rfl (closed _ (.inl rfl))
  · exact absurd rfl (closed _ (.inr rfl))
  · rw [h]
    rfl

/-- What is not expected is described as the value is. -/
theorem unexpected_eq (form : Form true Items Members depth t v rest) (front : skipBlank t = t) (expected : String) :
    unexpected (α := α × List Char) expected t = reading rest (misfit v expected) := by
  -- a value without parts opens no container, so it is read at depth 0 as well
  have plain (h : Form true (fun d u found rest => Reader.items true d t.length u = some (found, rest))
      (fun d u found rest => Reader.members true d t.length u = some (found, rest)) 0 t v rest) :
      unexpected (α := α × List Char) expected t = reading rest (misfit v expected) := by
    have read : value true 0 (t.length + 1) t = some (v, rest) := value_of_form (by rw [front]; exact h)
    exact unexpected_of_value read
  cases form with
  | emptyArr | arr | emptyObj | obj => rfl
  | null h => exact plain (.null h)
  | yes h => exact plain (.yes h)
  | no h => exact plain (.no h)
  | str h => exact plain (.str h)
  | num other h => exact plain (.num other h)

theorem read_text (h : Front depth s v rest) : read depth .text s = reading rest (fit .text v) := by
  have form := h.form
  have wrong := unexpected_eq (α := Json) form (skipBlank_skipBlank s) "a string"
  rw [read]
  generalize skipBlank s = t at form wrong
  cases form with
  | str h => simp [h, wellFormed, Except.map, fit, reading]
  | num other h =>
    simp only [openers, List.mem_cons, not_or] at other
    simp [wrong, other, fit]
  | _ => exact wrong

theorem read_flag (h : Front depth s v rest) : read depth .flag s = reading rest (fit .flag v) := by
  have form := h.form
  have wrong := unexpected_eq (α := Json) form (skipBlank_skipBlank s) "a boolean"
  rw [read]
  generalize skipBlank s = t at form wrong
  cases form with
  | yes h | no h => simp only [h, wellFormed, Except.map, fit, reading]
  | num other h =>
    simp only [openers, List.mem_cons, not_or] at other
    simp [wrong, other, fit]
  | _ => exact wrong

theorem reading_eq_map {x : Except FitError α} (h : ∀ e, x = .error e → TextError.ofFit e = .misfit e) :
    reading rest x = (fitting x).map fun a => (a, rest) := by
  cases x with
  | ok a => rfl
  | error e => exact congrArg Except.error (h e rfl)

theorem ofFit_of_fitNatural {bits : Nat} {e : FitError} (h : fitNatural bits v = .error e) :
    TextError.ofFit e = .misfit e := by
  unfold fitNatural at h
  dsimp only at h
  split at h
  · split at h
    · cases h
    · cases h
      rfl
  · cases h
    rfl

theorem read_natural (h : Front depth s v rest) (bits : Nat) :
    read depth (.natural bits) s = reading rest (fit (.natural bits) v) := by
  have form := h.form
  have wrong := unexpected_eq (α := Json) form (skipBlank_skipBlank s) ("u" ++ toString bits)
  have silent := form.number_eq_none
  rw [read, fit]
  generalize skipBlank s = t at form wrong silent
  cases form with
  | num other h =>
    rw [reading_eq_map fun e => ofFit_of_fitNatural]
    simp only [h]
    cases fitting (fitNatural bits (.num _)) <;> rfl
  | _ =>
    simp only [silent (by simp), wrong]
    rfl

theorem ofFit_of_fitTexts {members : List (String × Json)} {e : FitError} (h : fitTexts members = .error e) :
    TextError.ofFit e = .misfit e := by
  fun_induction fitTexts members with
  | case1 => cases h
  | case2 key s rest ih =>
    cases hrest : fitTexts rest with
    | ok found => simp [hrest, Except.map] at h
    | error e' =>
      simp only [hrest, Except.map, Except.error.injEq] at h
      exact ih (h ▸ hrest)
  | case3 =>
    cases h
    rfl

theorem ofFit_of_fit_texts {e : FitError} (h : fit .texts v = .error e) : TextError.ofFit e = .misfit e := by
  cases v with
  | obj members =>
    cases hmembers : fitTexts members with
    | ok found => simp [fit, hmembers, Except.map] at h
    | error e' =>
      simp only [fit, hmembers, Except.map, Except.error.injEq] at h
      exact ofFit_of_fitTexts (h ▸ hmembers)
  | _ =>
    simp only [fit, misfit, Except.error.injEq] at h
    exact h ▸ rfl

theorem read_texts (h : Front depth s v rest) : read depth .texts s = reading rest (fit .texts v) := by
  rw [read, h.value, reading_eq_map fun e => ofFit_of_fit_texts]
  simp only [wellFormed, bind, Except.bind]
  cases fitting (fit .texts v) <;> rfl

theorem read_any (h : Front depth s v rest) : read depth .any s = reading rest (fit .any v) := by
  rw [read, h.value, fit]
  rfl

/-- What may be null is null, or it is read by the shape that it has otherwise. -/
theorem read_optional {of : Shape} (h : Front depth s v rest)
    (hread : ∀ {s}, Front depth s v rest → read depth of s = reading rest (fit of v)) :
    read depth (.optional of) s = reading rest (fit (.optional of) v) := by
  have form := h.form
  have other := hread h.of_skipBlank
  rw [read]
  generalize skipBlank s = t at form other
  cases form with
  | null h => simp only [h, wellFormed, Except.map, fit, reading]
  | num opened h =>
    simp only [openers, List.mem_cons, not_or] at opened
    simp [opened, other, fit]
  | _ => exact other

/-! ## Items -/

theorem expect_of_skipBlank {c : Char} (h : skipBlank s = c :: rest) : expect c s = .ok rest := by
  simp [expect, h]

theorem nextItem_close {isFirst : Bool} (close : skipBlank s = ']' :: rest) : nextItem isFirst s = .ok none := by
  simp [nextItem, close]

theorem nextItem_first {vs : List Json} (h : Items depth (skipBlank s) vs rest) :
    nextItem true s = .ok (some (skipBlank s)) := by
  obtain ⟨v, after, first⟩ := h.exists_front
  obtain ⟨c, t, front, close, comma⟩ := first.exists_solid
  rw [skipBlank_skipBlank] at front
  simp [nextItem, front, close, comma]

theorem expect_of_nextItem {isFirst : Bool} {next : List Char} (h : nextItem isFirst s = .ok (some next)) :
    expect ']' s = .error .malformed := by
  unfold expect
  split
  · rfl
  · next d rest front =>
    refine if_neg fun close => ?_
    obtain rfl : ']' = d := by simpa using close
    cases (nextItem_close front).symm.trans h

theorem nextItem_more {next : List Char} {vs : List Json} (comma : skipBlank s = ',' :: next)
    (h : Items depth next vs rest) : nextItem false s = .ok (some (skipBlank next)) := by
  obtain ⟨v, after, first⟩ := h.exists_front
  obtain ⟨c, t, front, close, -⟩ := first.exists_solid
  simp [nextItem, comma, front, close]

theorem readItems_eq {of : Shape} {item : List Char → Except TextError (Json × List Char)}
    (hitem : ∀ {s v rest}, Front depth s v rest → item s = reading rest (fit of v)) {vs : List Json}
    (h : Items depth s vs rest) {isFirst : Bool} (start : nextItem isFirst t = .ok (some (skipBlank s)))
    (enough : s.length < bound) :
    readItems item bound isFirst t = reading rest (vs.mapM fun v => fit of v) := by
  induction h generalizing t isFirst bound with
  | @last s after rest v first close =>
    have consumed := first.length_lt
    obtain ⟨bound, rfl⟩ : ∃ b, bound = b + 2 := Nat.exists_eq_add_of_le' (by omega)
    have here := hitem first.of_skipBlank
    cases hfit : fit of v with
    | error e => simp [readItems, start, here, hfit, reading, bind, Except.bind]
    | ok w =>
      simp [readItems, start, here, hfit, reading, nextItem_close close, expect_of_skipBlank close, bind, Except.bind,
        pure, Except.pure]
  | @more s after next rest v vs first comma others ih =>
    have consumed := Nat.lt_trans (length_lt_of_skipBlank comma) first.length_lt
    obtain ⟨bound, rfl⟩ : ∃ b, bound = b + 1 := Nat.exists_eq_succ_of_ne_zero (by omega)
    have here := hitem first.of_skipBlank
    have shorter : next.length < bound := by omega
    have later := ih (nextItem_more comma others) shorter
    cases hfit : fit of v with
    | error e => simp [readItems, start, here, hfit, reading, bind, Except.bind]
    | ok w =>
      simp only [readItems, start, here, hfit, reading, later, List.mapM_cons, bind, Except.bind]
      cases vs.mapM fun v => fit of v <;> rfl

theorem read_list {of : Shape} (h : Front depth s v rest)
    (hread : ∀ {d s v rest}, Front d s v rest → read d of s = reading rest (fit of v)) :
    read depth (.list of) s = reading rest (fit (.list of) v) := by
  have form := h.form
  have wrong := unexpected_eq (α := Json) form (skipBlank_skipBlank s) "a sequence"
  unfold read
  generalize skipBlank s = t at form wrong
  cases form with
  | emptyArr close =>
    simp only [readItems, nextItem_close close, expect_of_skipBlank close]
    rfl
  | @arr d s rest vs h =>
    have enough : (skipBlank s).length < s.length + 1 := Nat.lt_succ_of_le (length_skipBlank_le s)
    have start : nextItem true s = .ok (some (skipBlank (skipBlank s))) := by
      rw [skipBlank_skipBlank]
      exact nextItem_first h
    simp only [readItems_eq hread h start enough, map_reading, fit]
  | num other h =>
    simp only [openers, List.mem_cons, not_or] at other
    simp [wrong, other, fit]
  | _ => simp [wrong, fit]

/-! ## Members -/

section Members

variable {isField : String → Bool} {field : String → List Char → Except TextError (Json × List Char)}
  {fitted : String → Json → Except FitError Json}

theorem readMembers_eq
    (hfield : ∀ {name s v rest}, isField name → Front depth s v rest → field name s = reading rest (fitted name v))
    {ms : List (String × Json)} (h : Members depth s ms rest) {seen seen' : List String}
    (same : ∀ name, isField name → seen.contains name = seen'.contains name) (enough : s.length < bound) :
    readMembers isField field bound seen s = reading rest (fitMembers isField fitted seen' ms) := by
  induction h generalizing seen seen' bound with
  | @last s after rest key v first close =>
    obtain ⟨bound, rfl⟩ : ∃ b, bound = b + 1 := Nat.exists_eq_succ_of_ne_zero (by omega)
    obtain ⟨opened, named, given, quote, hkey, colon, first⟩ := first
    simp only [readMembers, fitMembers, expect_of_skipBlank quote, hkey, expect_of_skipBlank colon, wellFormed, bind,
      Except.bind]
    cases hname : isField key with
    | false => simp [first.skipValue, close, reading, Except.map]
    | true =>
      have here := hfield hname first
      cases repeated : seen'.contains key with
      | true =>
        simp only [same key hname, repeated]
        rfl
      | false =>
        simp only [same key hname, repeated, here]
        cases fitted key v with
        | error e => simp [reading, Except.map]
        | ok w => simp [reading, Except.map, close]
  | @more s after next rest key v ms first comma others ih =>
    have consumed := Nat.lt_trans (length_lt_of_skipBlank comma) first.length_lt
    obtain ⟨bound, rfl⟩ : ∃ b, bound = b + 1 := Nat.exists_eq_succ_of_ne_zero (by omega)
    have shorter : next.length < bound := by omega
    obtain ⟨opened, named, given, quote, hkey, colon, first⟩ := first
    simp only [readMembers, fitMembers, expect_of_skipBlank quote, hkey, expect_of_skipBlank colon, wellFormed, bind,
      Except.bind]
    cases hname : isField key with
    | false =>
      -- a member that is no field is none of the seen ones either
      have same' : ∀ name, isField name → (key :: seen).contains name = seen'.contains name := by
        intro name hfield
        have other : name ≠ key := by
          rintro rfl
          cases hname.symm.trans hfield
        rw [List.contains_cons, same name hfield]
        simp [other]
      have later := ih same' shorter
      simp only [first.skipValue, Bool.false_and, Bool.false_eq_true, ↓reduceIte, Except.map, comma, later]
      cases fitMembers isField fitted seen' ms <;> simp [reading]
    | true =>
      have here := hfield hname first
      have same' : ∀ name, isField name → (key :: seen).contains name = (key :: seen').contains name := by
        intro name hfield
        rw [List.contains_cons, List.contains_cons, same name hfield]
      have later := ih same' shorter
      cases repeated : seen'.contains key with
      | true =>
        simp only [same key hname, repeated]
        rfl
      | false =>
        simp only [same key hname, repeated, here]
        cases fitted key v with
        | error e => simp [reading, Except.map]
        | ok w =>
          simp only [reading, Except.map, comma, later]
          cases fitMembers isField fitted (key :: seen') ms <;> simp

end Members

/-! ## Fields in their order -/

/-- Where nothing stands in front of the closing bracket, the fields that are left are missing. -/
theorem readFields_close (fields : Fields) {expected : String} (h : expected ≠ "fewer elements in array")
    (depth length index : Nat) (close : skipBlank s = ']' :: rest) :
    readFields expected depth index fields s = reading rest (fitItems expected length index fields []) := by
  induction fields generalizing index with
  | nil =>
    rw [readFields, expect_of_skipBlank close, fitItems]
    rfl
  | cons f fields ih =>
    obtain ⟨name, presence, shape⟩ := f
    rw [readFields, fitItems]
    simp only [nextItem_close close, bind, Except.bind]
    split
    · exact ih (index + 1)
    · simp [reading, TextError.ofFit, h]

theorem arrayExpectation_ne (type : String) (fields : Fields) :
    arrayExpectation type fields ≠ "fewer elements in array" := by
  intro same
  have := congrArg (fun s : String => s.toList.head?) same
  simp [arrayExpectation] at this

/-! ## All shapes -/

theorem reading_of_checkPresent {found : List (String × Json)} :
    (fitting (checkPresent found fields) >>= fun _ => .ok (Json.obj found, rest)) =
      reading rest (checkPresent found fields >>= fun _ => .ok (Json.obj found)) := by
  unfold checkPresent
  split <;> rfl

theorem read_record {type : String} (h : Front depth s v rest)
    (hfield : ∀ {d name s v rest}, hasField fields name → Front d s v rest →
      readField d name fields s = reading rest (fitField name v fields))
    (hitems : ∀ {d s vs rest t}, Items d s vs rest → nextItem true t = .ok (some (skipBlank s)) →
      readFields (arrayExpectation type fields) d 0 fields t =
        reading rest (fitItems (arrayExpectation type fields) vs.length 0 fields vs)) :
    read depth (.record type fields) s = reading rest (fit (.record type fields) v) := by
  have form := h.form
  have wrong := unexpected_eq (α := Json) form (skipBlank_skipBlank s) ("struct " ++ type)
  unfold read
  generalize skipBlank s = t at form wrong
  cases form with
  | emptyArr close =>
    simp only [readFields_close fields (arrayExpectation_ne type fields) _ 0 0 close, map_reading, fit,
      List.length_nil]
  | @arr d s rest vs h =>
    have start : nextItem true s = .ok (some (skipBlank (skipBlank s))) := by
      rw [skipBlank_skipBlank]
      exact nextItem_first h
    simp only [hitems h start, map_reading, fit]
  | emptyObj close =>
    simp only [close, bind, Except.bind, fit, fitMembers]
    exact reading_of_checkPresent
  | @obj d s rest ms h =>
    obtain ⟨opened, quote⟩ := h.exists_quote
    rw [skipBlank_skipBlank] at quote
    have found : readMembers (hasField fields) (fun name s => readField d name fields s) ((skipBlank s).length + 1) []
        (skipBlank s) = reading rest (fitMembers (hasField fields) (fun key v => fitField key v fields) [] ms) :=
      readMembers_eq hfield h (fun _ _ => rfl) (Nat.lt_succ_self _)
    have goesOn (rest : List Char) : skipBlank s ≠ '\x7D' :: rest := by simp [quote]
    simp only [found, fit, bind, Except.bind]
    cases fitMembers (hasField fields) (fun key v => fitField key v fields) [] ms with
    | error e => rfl
    | ok found => exact reading_of_checkPresent
  | num other h =>
    simp only [openers, List.mem_cons, not_or] at other
    simp [wrong, other, fit]
  | _ => simp [wrong, fit]

mutual

/-- What is read by a shape is how the value fits the shape. -/
theorem read_eq : (shape : Shape) → {depth : Nat} → {s rest : List Char} → {v : Json} → Front depth s v rest →
    shape.read depth s = reading rest (shape.fit v)
  | .any, _, _, _, _, h => read_any h
  | .text, _, _, _, _, h => read_text h
  | .flag, _, _, _, _, h => read_flag h
  | .natural bits, _, _, _, _, h => read_natural h bits
  | .texts, _, _, _, _, h => read_texts h
  | .optional of, _, _, _, _, h => read_optional h (read_eq of)
  | .list of, _, _, _, _, h => read_list h (read_eq of)
  | .record type fields, _, _, _, _, h =>
    read_record h (readField_eq fields) fun {d s vs rest t} h start => by
      simpa using readFields_eq fields (arrayExpectation_ne type fields) 0 h start

theorem readField_eq : (fields : List (String × Presence × Shape)) → {depth : Nat} → {name : String} →
    {s : List Char} → {v : Json} → {rest : List Char} → hasField fields name → Front depth s v rest →
    readField depth name fields s = reading rest (fitField name v fields)
  | [], _, _, _, _, _, known, _ => by cases known
  | (key, presence, shape) :: fields, depth, name, s, v, rest, known, h => by
    rw [readField, fitField]
    split
    · exact read_eq shape h
    · next other =>
      refine readField_eq fields ?_ h
      simpa [hasField, other] using known

theorem readFields_eq : (fields : List (String × Presence × Shape)) → {expected : String} →
    expected ≠ "fewer elements in array" → (index : Nat) → {depth : Nat} → {s : List Char} → {vs : List Json} →
    {rest t : List Char} → Items depth s vs rest → nextItem (index == 0) t = .ok (some (skipBlank s)) →
    readFields expected depth index fields t = reading rest (fitItems expected (index + vs.length) index fields vs)
  | [], expected, _, index, depth, s, vs, rest, t, h, start => by
    -- the array goes on, so the closing bracket is not there
    have more : fitItems expected (index + vs.length) index [] vs =
        .error (.wrongLength (index + vs.length) "fewer elements in array") := by
      cases h <;> rfl
    rw [readFields, expect_of_nextItem start, more]
    rfl
  | (name, presence, shape) :: fields, expected, other, index, depth, s, vs, rest, t, h, start => by
    rw [readFields]
    cases h with
    | @last _ after _ v first close =>
      have here := read_eq shape first.of_skipBlank
      have later := readFields_close fields other depth (index + 1) (index + 1) close
      rw [fitItems]
      simp only [start, here, bind, Except.bind]
      cases shape.fit v with
      | error e => rfl
      | ok w =>
        simp only [reading, later, List.length_singleton]
        cases fitItems expected (index + 1) (index + 1) fields [] <;> rfl
    | @more _ after next _ v vs first comma others =>
      have here := read_eq shape first.of_skipBlank
      have later := readFields_eq fields other (index + 1) others (nextItem_more comma others)
      rw [Nat.succ_add_eq_add_succ] at later
      rw [fitItems, List.length_cons]
      simp only [start, here, bind, Except.bind]
      cases shape.fit v with
      | error e => rfl
      | ok w =>
        simp only [reading, later]
        cases fitItems expected (index + (vs.length + 1)) (index + 1) fields vs <;> rfl

end

/-! ## Texts -/

theorem map_fst_reading (x : Except FitError α) :
    (reading rest x).map Prod.fst = x.mapError TextError.ofFit := by
  cases x <;> rfl

/-- The value at the front of a text is read by a shape as it fits the shape. -/
theorem ofFront_eq {text : String} (h : Front maxDepth text.toList v rest) (shape : Shape) :
    shape.ofFront text = (shape.fit v).mapError TextError.ofFit := by
  rw [ofFront, read_eq shape h, map_fst_reading]

/-- A text that denotes a value is read by a shape as the value fits the shape. -/
theorem ofText_eq {text : String} (h : written? text = some v) (shape : Shape) :
    shape.ofText text = (shape.fit v).mapError TextError.ofFit := by
  unfold written? document at h
  split at h
  · next w rest hvalue =>
    split at h
    · next done =>
      cases h
      have front : Front maxDepth text.toList v rest := ⟨_, hvalue⟩
      rw [ofText, read_eq shape front]
      cases shape.fit v with
      | error e => rfl
      | ok w =>
        simp only [reading, done, bind, Except.bind]
        rfl
    · cases h
  · cases h

end Shape

end Periscope.Json
