import Periscope.Json.ShapeReader

/-!
# Values in the form of a shape

Whatever text is read by a shape, the value has the form of the shape, and nothing in it is to be taken for
missing: a required field is there, and every field has the form of its own shape.
-/

namespace Periscope.Json.Shape

open Reader

mutual

/-- The value is in the form that the shape gives it. -/
def Conforms : Shape → Json → Prop
  | .any, _ => True
  | .text, v => ∃ s, v = .str s
  | .flag, v => ∃ b, v = .bool b
  | .natural bits, v => ∃ n : Nat, n < 2 ^ bits ∧ v = .num (.int n)
  | .texts, v => ∃ members, v = .obj members ∧ ∀ m ∈ members, ∃ s, m.2 = .str s
  | .optional of, v => v = .null ∨ Conforms of v
  | .list of, v => ∃ items, v = .arr items ∧ ∀ item ∈ items, Conforms of item
  | .record _ fields, v =>
    ∃ members, v = .obj members ∧ (∀ m ∈ members, ConformsField m.1 m.2 fields) ∧
      ∀ f ∈ fields, f.2.1 = .required → (members.lookup f.1).isSome

/-- The value is in the form of a field of the name. -/
def ConformsField (name : String) (v : Json) : List (String × Presence × Shape) → Prop
  | [] => False
  | (key, _, shape) :: rest => key = name ∧ Conforms shape v ∨ ConformsField name v rest

end

variable {α β ε : Type}

private theorem of_bind_ok {x : Except ε α} {f : α → Except ε β} {b : β} (h : (x >>= f) = .ok b) :
    ∃ a, x = .ok a ∧ f a = .ok b := by
  cases x with
  | error e => cases h
  | ok a => exact ⟨a, rfl, h⟩

private theorem of_ite_bind_ok {c : Prop} [Decidable c] {x y : Except ε α} {f : α → Except ε β} {b : β}
    (h : (if c then x >>= f else y >>= f) = .ok b) : ∃ a, (if c then x else y) = .ok a ∧ f a = .ok b := by
  refine of_bind_ok ?_
  split at h <;> simp only [*, ↓reduceIte]

private theorem of_map_ok {x : Except ε α} {f : α → β} {b : β} (h : x.map f = .ok b) :
    ∃ a, x = .ok a ∧ f a = b := by
  cases x with
  | error e => cases h
  | ok a => exact ⟨a, rfl, Except.ok.inj h⟩

private theorem of_fitting_ok {x : Except FitError α} {a : α} (h : fitting x = .ok a) : x = .ok a := by
  cases x with
  | error e => cases h
  | ok a' => exact congrArg Except.ok (Except.ok.inj h)

/-! ## Values without parts -/

variable {fields : Fields} {s rest : List Char} {v : Json} {bits : Nat}

theorem unexpected_ne_ok {expected : String} {a : α} : unexpected expected s ≠ .ok a := by
  unfold unexpected
  intro h
  split at h
  · cases h
  · cases h
  · obtain ⟨_, -, h⟩ := of_bind_ok h
    cases h

theorem conforms_of_fitNatural {n : Number} (h : fitNatural bits (.num n) = .ok v) :
    Conforms (.natural bits) v := by
  cases n with
  | double => simp [fitNatural, misfit] at h
  | int n =>
    simp only [fitNatural, Bool.and_eq_true, decide_eq_true_eq] at h
    split at h
    · next range =>
      cases h
      refine ⟨n.toNat, ?_, by simp [Int.toNat_of_nonneg range.1]⟩
      have bound : n < ((2 ^ bits : Nat) : Int) := range.2
      omega
    · cases h

theorem mem_insertMember {key : String} {m : String × Json} {members : List (String × Json)}
    (h : m ∈ insertMember key v members) : m = (key, v) ∨ m ∈ members := by
  induction members with
  | nil => simpa [insertMember] using h
  | cons first rest ih =>
    rw [insertMember] at h
    split at h
    · simpa using h
    · split at h
      · rcases List.mem_cons.1 h with rfl | h
        · exact .inl rfl
        · exact .inr (List.mem_cons_of_mem _ h)
      · rcases List.mem_cons.1 h with rfl | h
        · exact .inr List.mem_cons_self
        · exact (ih h).imp_right (List.mem_cons_of_mem _)

theorem mem_sortMembers {m : String × Json} {members : List (String × Json)} (h : m ∈ sortMembers members) :
    m ∈ members := by
  suffices h : ∀ sorted, m ∈ members.foldl (fun sorted m => insertMember m.1 m.2 sorted) sorted →
      m ∈ sorted ∨ m ∈ members by simpa using h [] ‹_›
  clear h
  induction members with
  | nil => exact fun sorted h => .inl h
  | cons first rest ih =>
    intro sorted h
    rcases ih _ h with h | h
    · rcases mem_insertMember h with rfl | h
      · exact .inr List.mem_cons_self
      · exact .inl h
    · exact .inr (List.mem_cons_of_mem _ h)

theorem texts_of_fitTexts {members found : List (String × Json)} (h : fitTexts members = .ok found) :
    ∀ m ∈ found, ∃ s, m.2 = .str s := by
  induction members generalizing found with
  | nil => cases h; simp
  | cons first rest ih =>
    obtain ⟨key, v⟩ := first
    cases v with
    | str s =>
      obtain ⟨found, hfound, rfl⟩ := of_map_ok h
      simpa using ih hfound
    | _ => simp [fitTexts, misfit] at h

theorem conforms_of_fit_texts {w : Json} (h : fit .texts w = .ok v) : Conforms .texts v := by
  cases w with
  | obj members =>
    simp only [fit] at h
    obtain ⟨found, hfound, rfl⟩ := of_map_ok h
    exact ⟨_, rfl, fun m hm => texts_of_fitTexts hfound m (mem_sortMembers hm)⟩
  | _ => simp [fit, misfit] at h

/-! ## Items and members -/

theorem forall_of_readItems {p : Json → Prop} {item : List Char → Except TextError (Json × List Char)}
    (hitem : ∀ s v rest, item s = .ok (v, rest) → p v) {bound : Nat} {isFirst : Bool} {found : List Json}
    (h : readItems item bound isFirst s = .ok (found, rest)) : ∀ v ∈ found, p v := by
  induction bound generalizing isFirst s found rest with
  | zero => cases h
  | succ bound ih =>
    obtain ⟨next, -, h⟩ := of_bind_ok h
    cases next with
    | none =>
      obtain ⟨_, -, h⟩ := of_bind_ok h
      cases h
      simp
    | some s =>
      obtain ⟨⟨v, after⟩, hv, h⟩ := of_bind_ok h
      obtain ⟨⟨more, last⟩, hmore, h⟩ := of_bind_ok h
      cases h
      simpa using ⟨hitem s v after hv, ih hmore⟩

theorem forall_of_readMembers {p : String → Json → Prop} {isField : String → Bool}
    {field : String → List Char → Except TextError (Json × List Char)}
    (hfield : ∀ name s v rest, field name s = .ok (v, rest) → p name v) {bound : Nat} {seen : List String}
    {found : List (String × Json)} (h : readMembers isField field bound seen s = .ok (found, rest)) :
    ∀ m ∈ found, p m.1 m.2 := by
  induction bound generalizing seen s found rest with
  | zero => cases h
  | succ bound ih =>
    rw [readMembers] at h
    obtain ⟨_, -, h⟩ := of_bind_ok h
    obtain ⟨⟨key, _⟩, -, h⟩ := of_bind_ok h
    dsimp only at h
    split at h
    · cases h
    obtain ⟨after, -, h⟩ := of_bind_ok h
    -- a field is read by its own shape, and any other member is passed over
    obtain ⟨⟨these, last⟩, hthese, h⟩ := of_ite_bind_ok h
    have here : ∀ m ∈ these, p m.1 m.2 := by
      split at hthese
      · obtain ⟨⟨v, _⟩, hv, hthese⟩ := of_map_ok hthese
        cases hthese
        simpa using hfield key _ v _ hv
      · obtain ⟨_, -, hthese⟩ := of_map_ok hthese
        cases hthese
        simp
    dsimp only at h
    split at h
    · obtain ⟨⟨more, _⟩, hmore, h⟩ := of_bind_ok h
      cases h
      intro m hm
      rcases List.mem_append.1 hm with hm | hm
      · exact here m hm
      · exact ih hmore m hm
    · cases h
      exact here
    · cases h

theorem present_of_checkPresent {found : List (String × Json)} (h : checkPresent found fields = .ok ()) :
    ∀ f ∈ fields, f.2.1 = .required → (found.lookup f.1).isSome := by
  intro f hf required
  unfold checkPresent at h
  split at h
  · cases h
  · next hnone =>
    have hf := List.find?_eq_none.1 hnone f hf
    simpa [required, Option.isSome_iff_ne_none] using hf

/-! ## All shapes -/

mutual

/-- What is read by a shape is in the form of the shape. -/
theorem conforms_of_read : (shape : Shape) → {depth : Nat} → {s rest : List Char} → {v : Json} →
    shape.read depth s = .ok (v, rest) → shape.Conforms v
  | .any, _, _, _, _, _ => trivial
  | .text, depth, s, rest, v, h => by
    unfold read at h
    split at h
    · obtain ⟨_, -, h⟩ := of_map_ok h
      cases h
      exact ⟨_, rfl⟩
    · exact absurd h unexpected_ne_ok
  | .flag, depth, s, rest, v, h => by
    unfold read at h
    split at h
    · obtain ⟨_, -, h⟩ := of_map_ok h
      cases h
      exact ⟨_, rfl⟩
    · obtain ⟨_, -, h⟩ := of_map_ok h
      cases h
      exact ⟨_, rfl⟩
    · exact absurd h unexpected_ne_ok
  | .natural bits, depth, s, rest, v, h => by
    unfold read at h
    split at h
    · obtain ⟨_, hfit, h⟩ := of_bind_ok h
      cases h
      exact conforms_of_fitNatural (of_fitting_ok hfit)
    · exact absurd h unexpected_ne_ok
  | .texts, depth, s, rest, v, h => by
    unfold read at h
    obtain ⟨_, -, h⟩ := of_bind_ok h
    obtain ⟨_, hfit, h⟩ := of_bind_ok h
    cases h
    exact conforms_of_fit_texts (of_fitting_ok hfit)
  | .optional of, depth, s, rest, v, h => by
    unfold read at h
    split at h
    · obtain ⟨_, -, h⟩ := of_map_ok h
      cases h
      exact .inl rfl
    · exact .inr (conforms_of_read of h)
  | .list of, depth, s, rest, v, h => by
    unfold read at h
    split at h
    · cases h
    · obtain ⟨⟨found, _⟩, hfound, h⟩ := of_map_ok h
      cases h
      exact ⟨found, rfl, forall_of_readItems (fun _ _ _ hv => conforms_of_read of hv) hfound⟩
    · exact absurd h unexpected_ne_ok
  | .record type fields, depth, s, rest, v, h => by
    unfold read at h
    split at h
    · cases h
    · cases h
    · obtain ⟨⟨found, _⟩, hfound, h⟩ := of_map_ok h
      cases h
      exact ⟨found, rfl, conforms_of_readFields fields hfound⟩
    · next depth after _ =>
      obtain ⟨found, last, hfound, h⟩ : ∃ found last, (∀ m ∈ found, ConformsField m.1 m.2 fields) ∧
          (fitting (checkPresent found fields) >>= fun _ => Except.ok (.obj found, last)) = .ok (v, rest) := by
        dsimp only at h
        split at h
        · exact ⟨[], _, by simp, h⟩
        · obtain ⟨⟨found, last⟩, hfound, h⟩ := of_bind_ok h
          refine ⟨found, last, ?_, h⟩
          exact forall_of_readMembers (p := (ConformsField · · fields))
            (fun _ _ _ _ hv => conforms_of_readField fields hv) hfound
      obtain ⟨_, hpresent, h⟩ := of_bind_ok h
      cases h
      exact ⟨found, rfl, hfound, present_of_checkPresent (of_fitting_ok hpresent)⟩
    · exact absurd h unexpected_ne_ok

theorem conforms_of_readField : (fields : List (String × Presence × Shape)) → {depth : Nat} → {name : String} →
    {s rest : List Char} → {v : Json} → readField depth name fields s = .ok (v, rest) → ConformsField name v fields
  | [], _, _, _, _, _, h => by cases h
  | (key, presence, shape) :: fields, depth, name, s, rest, v, h => by
    rw [readField] at h
    split at h
    · next hkey => exact .inl ⟨by simpa using hkey, conforms_of_read shape h⟩
    · exact .inr (conforms_of_readField fields h)

theorem conforms_of_readFields : (fields : List (String × Presence × Shape)) → {expected : String} →
    {depth index : Nat} → {s rest : List Char} → {found : List (String × Json)} →
    readFields expected depth index fields s = .ok (found, rest) →
    (∀ m ∈ found, ConformsField m.1 m.2 fields) ∧
      ∀ f ∈ fields, f.2.1 = .required → (found.lookup f.1).isSome
  | [], _, _, _, _, _, _, h => by
    obtain ⟨_, -, h⟩ := of_map_ok h
    cases h
    simp
  | (name, presence, shape) :: fields, expected, depth, index, s, rest, found, h => by
    rw [readFields] at h
    obtain ⟨next, -, h⟩ := of_bind_ok h
    cases next with
    | none =>
      dsimp only at h
      split at h
      · next defaulted =>
        obtain ⟨hform, hpresent⟩ := conforms_of_readFields fields h
        refine ⟨fun m hm => .inr (hform m hm), fun f hf required => ?_⟩
        rcases List.mem_cons.1 hf with rfl | hf
        · simp [show presence = .required from required] at defaulted
        · exact hpresent f hf required
      · cases h
    | some s =>
      obtain ⟨⟨v, _⟩, hv, h⟩ := of_bind_ok h
      obtain ⟨⟨more, _⟩, hmore, h⟩ := of_bind_ok h
      cases h
      obtain ⟨hform, hpresent⟩ := conforms_of_readFields fields hmore
      constructor
      · intro m hm
        rcases List.mem_cons.1 hm with rfl | hm
        · exact .inl ⟨rfl, conforms_of_read shape hv⟩
        · exact .inr (hform m hm)
      · intro f hf required
        rw [List.lookup_cons]
        split
        · rfl
        · next hne =>
          rcases List.mem_cons.1 hf with rfl | hf
          · simp at hne
          · exact hpresent f hf required

end

theorem conforms_of_ofText {shape : Shape} {text : String} (h : shape.ofText text = .ok v) : shape.Conforms v := by
  obtain ⟨⟨w, rest⟩, hread, h⟩ := of_bind_ok h
  dsimp only at h
  split at h
  · cases h
    exact conforms_of_read shape hread
  · cases h

/-! ## Parts of a value -/

section

variable {type name : String}

theorem conformsField_of_get? {w : Json} (h : Conforms (.record type fields) v) (hget : v.get? name = some w) :
    ConformsField name w fields := by
  obtain ⟨members, rfl, hform, -⟩ := h
  obtain ⟨before, after, rfl, -⟩ := List.lookup_eq_some_iff.1 hget
  exact hform (name, w) (by simp)

/-- A field that is required and a text has a text. -/
theorem exists_textAt? (h : Conforms (.record type fields) v) (required : (name, .required, .text) ∈ fields)
    (text : ∀ w, ConformsField name w fields → Conforms .text w) : ∃ s, v.textAt? name = some s := by
  have present : (v.get? name).isSome := by
    obtain ⟨members, rfl, -, hpresent⟩ := h
    exact hpresent _ required rfl
  obtain ⟨w, hw⟩ := Option.isSome_iff_exists.1 present
  obtain ⟨s, rfl⟩ := text w (conformsField_of_get? h hw)
  exact ⟨s, by simp [textAt?, hw, str?]⟩

/-- The items of a field that is a list are in the form of an item. -/
theorem conforms_of_mem_itemsAt (of : Shape) (h : Conforms (.record type fields) v)
    (list : ∀ w, ConformsField name w fields → Conforms (.list of) w) :
    ∀ item ∈ v.itemsAt name, Conforms of item := by
  intro item hitem
  cases hget : v.get? name with
  | none => simp [itemsAt, hget] at hitem
  | some w =>
    obtain ⟨items, rfl, hitems⟩ := list w (conformsField_of_get? h hget)
    exact hitems item (by simpa [itemsAt, hget, arr?] using hitem)

end

end Periscope.Json.Shape
