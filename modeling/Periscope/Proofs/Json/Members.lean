import Periscope.Proofs.Json.Places
import Periscope.Proofs.Json.Shape

/-!
# Members in any order

The order of the members of an object does not count where no key repeats: what is found under a key, what sorting
gives and whether the object fits a record are the same for every order.
-/

namespace Periscope.Json

variable {key : String} {v : Json} {members members' : List (String × Json)}

theorem get?_of_perm (h : members.Perm members') (hkeys : (members'.map Prod.fst).Nodup) :
    (Json.obj members).get? key = members'.lookup key := by
  refine Option.ext fun w => ?_
  rw [get?, lookup_eq_some_iff_mem ((h.map _).nodup_iff.2 hkeys), lookup_eq_some_iff_mem hkeys, h.mem_iff]

/-! ## Sorting -/

theorem insertMember_perm (h : key ∉ members.map Prod.fst) :
    (insertMember key v members).Perm ((key, v) :: members) := by
  induction members with
  | nil => exact .refl _
  | cons m rest ih =>
    obtain ⟨other, w⟩ := m
    rw [List.map_cons, List.mem_cons, not_or] at h
    rw [insertMember]
    split
    · exact .refl _
    · rw [if_neg (by simpa using h.1)]
      exact ((ih h.2).cons _).trans (.swap _ _ _)

theorem insertMember_ascending (h : (members.map Prod.fst).Pairwise (· < ·)) :
    ((insertMember key v members).map Prod.fst).Pairwise (· < ·) := by
  induction members with
  | nil => exact List.pairwise_singleton _ _
  | cons m rest ih =>
    obtain ⟨other, w⟩ := m
    have hall := h
    obtain ⟨hfirst, hrest⟩ := List.pairwise_cons.1 h
    rw [insertMember]
    split
    · next hlt =>
      refine .cons (fun k hk => ?_) hall
      rcases List.mem_cons.1 hk with rfl | hk
      · exact hlt
      · exact String.lt_trans hlt (hfirst k hk)
    · next hle =>
      split
      · next heq =>
        obtain rfl : key = other := by simpa using heq
        exact .cons hfirst hrest
      · next hne =>
        have hlt : other < key := by
          refine Decidable.not_not.1 fun hge => hne ?_
          simpa using String.le_antisymm (String.not_lt.1 hge) (String.not_lt.1 hle)
        refine .cons (fun k hk => ?_) (ih hrest)
        obtain ⟨m, hm, rfl⟩ := List.mem_map.1 hk
        rcases Shape.mem_insertMember hm with rfl | hm
        · exact hlt
        · exact hfirst _ (List.mem_map_of_mem hm)

theorem sortMembers_ascending (members : List (String × Json)) :
    ((sortMembers members).map Prod.fst).Pairwise (· < ·) := by
  suffices h : ∀ sorted : List (String × Json), (sorted.map Prod.fst).Pairwise (· < ·) →
      ((members.foldl (fun sorted m => insertMember m.1 m.2 sorted) sorted).map Prod.fst).Pairwise (· < ·) from
    h [] .nil
  induction members with
  | nil => exact fun sorted h => h
  | cons m rest ih => exact fun sorted h => ih _ (insertMember_ascending h)

theorem sortMembers_perm (h : (members.map Prod.fst).Nodup) : (sortMembers members).Perm members := by
  suffices placed : ∀ sorted : List (String × Json), ((sorted ++ members).map Prod.fst).Nodup →
      (members.foldl (fun sorted m => insertMember m.1 m.2 sorted) sorted).Perm (sorted ++ members) from
    placed [] h
  clear h
  induction members with
  | nil => simp
  | cons m rest ih =>
    intro sorted h
    have moved : ((m :: sorted) ++ rest).Perm (sorted ++ m :: rest) := List.perm_middle.symm
    have hkeys : (((m :: sorted) ++ rest).map Prod.fst).Nodup := (moved.map _).nodup_iff.2 h
    have inserted : (insertMember m.1 m.2 sorted).Perm (m :: sorted) := by
      refine insertMember_perm fun hm => ?_
      simp only [List.cons_append, List.map_cons, List.nodup_cons, List.map_append, List.mem_append] at hkeys
      exact hkeys.1 (.inl hm)
    have placed := inserted.append_right rest
    exact (ih _ ((placed.map _).nodup_iff.2 hkeys)).trans (placed.trans moved)

/-- Sorting undoes any change of the order. -/
theorem sortMembers_eq (h : members.Perm members') (ascending : (members'.map Prod.fst).Pairwise (· < ·)) :
    sortMembers members = members' := by
  have hkeys : (members.map Prod.fst).Nodup :=
    (h.map _).nodup_iff.2 (ascending.imp fun hlt => String.ne_of_lt hlt)
  have hsorted := List.pairwise_map.1 (sortMembers_ascending members)
  exact ((sortMembers_perm hkeys).trans h).eq_of_pairwise
    (fun _ _ _ _ hab hba => absurd (String.lt_trans hab hba) (String.lt_irrefl _))
    hsorted (List.pairwise_map.1 ascending)

/-! ## Records -/

namespace Shape

theorem fitMembers_of_forall {isField : String → Bool} {fit : String → Json → Except FitError Json}
    {seen : List String} (fitted : String × Json → Json)
    (hfield : ∀ m ∈ members, isField m.1 ∧ fit m.1 m.2 = .ok (fitted m)) (hkeys : (members.map Prod.fst).Nodup)
    (hseen : ∀ m ∈ members, m.1 ∉ seen) :
    fitMembers isField fit seen members = .ok (members.map fun m => (m.1, fitted m)) := by
  induction members generalizing seen with
  | nil => rfl
  | cons m rest ih =>
    obtain ⟨key, v⟩ := m
    obtain ⟨⟨hname, hfit⟩, hfields⟩ := List.forall_mem_cons.1 hfield
    obtain ⟨hnew, hunseen⟩ := List.forall_mem_cons.1 hseen
    rw [List.map_cons, List.nodup_cons] at hkeys
    have hlater : ∀ m ∈ rest, m.1 ∉ key :: seen := fun m hm hmem => by
      rcases List.mem_cons.1 hmem with heq | hmem
      · exact hkeys.1 (List.mem_map.2 ⟨m, hm, heq⟩)
      · exact hunseen m hm hmem
    simp [fitMembers, hname, hfit, hnew, ih hfields hkeys.2 hlater]
    rfl

theorem checkPresent_of_forall {fields : Fields}
    (h : ∀ f ∈ fields, f.2.1 = .required → f.1 ∈ members.map Prod.fst) : checkPresent members fields = .ok () := by
  have hnone : fields.find? (fun f => f.2.1 == .required && (members.lookup f.1).isNone) = none := by
    refine List.find?_eq_none.2 fun f hf hmissing => ?_
    rw [Bool.and_eq_true, beq_iff_eq] at hmissing
    obtain ⟨m, hm, hname⟩ := List.mem_map.1 (h f hf hmissing.1)
    have hnot : ∀ m ∈ members, f.1 ≠ m.1 := by simpa using hmissing.2
    exact hnot m hm hname.symm
  rw [checkPresent, hnone]

/-- A value fits a record if its members are, in whatever order, fields of the record, each once and with a value that
fits, and all required fields are among them. -/
theorem fit_record {type : String} {fields : Fields} (fitted : String × Json → Json) (h : members.Perm members')
    (hkeys : (members'.map Prod.fst).Nodup)
    (hfield : ∀ m ∈ members', hasField fields m.1 ∧ fitField m.1 m.2 fields = .ok (fitted m))
    (hpresent : ∀ f ∈ fields, f.2.1 = .required → f.1 ∈ members'.map Prod.fst) :
    fit (.record type fields) (.obj members) = .ok (.obj (members.map fun m => (m.1, fitted m))) := by
  have hfound : fitMembers (hasField fields) (fun key v => fitField key v fields) [] members =
      .ok (members.map fun m => (m.1, fitted m)) :=
    fitMembers_of_forall fitted (fun m hm => hfield m (h.mem_iff.1 hm)) ((h.map _).nodup_iff.2 hkeys) (by simp)
  have hchecked : checkPresent (members.map fun m => (m.1, fitted m)) fields = .ok () := by
    refine checkPresent_of_forall fun f hf required => ?_
    rw [List.map_map]
    exact ((h.map Prod.fst).mem_iff.2 (hpresent f hf required) :)
  rw [fit]
  simp only [hfound, hchecked, bind, Except.bind]

theorem fit_record_self {type : String} {fields : Fields} (h : members.Perm members')
    (hkeys : (members'.map Prod.fst).Nodup)
    (hfield : ∀ m ∈ members', hasField fields m.1 ∧ fitField m.1 m.2 fields = .ok m.2)
    (hpresent : ∀ f ∈ fields, f.2.1 = .required → f.1 ∈ members'.map Prod.fst) :
    fit (.record type fields) (.obj members) = .ok (.obj members) := by
  rw [fit_record Prod.snd h hkeys hfield hpresent]
  exact congrArg (fun members => Except.ok (Json.obj members)) (List.map_id' _)

theorem fit_list {of : Shape} {items : List Json} (h : ∀ item ∈ items, fit of item = .ok item) :
    fit (.list of) (.arr items) = .ok (.arr items) := by
  have hitems : items.mapM (fun item => fit of item) = .ok items := by
    induction items with
    | nil => rfl
    | cons item rest ih =>
      obtain ⟨hitem, hrest⟩ := List.forall_mem_cons.1 h
      rw [List.mapM_cons, hitem, ih hrest]
      rfl
  rw [fit, hitems]
  rfl

end Shape

end Periscope.Json
