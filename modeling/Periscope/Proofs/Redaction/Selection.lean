import Mathlib.Algebra.BigOperators.Group.List.Basic
import Mathlib.Algebra.GroupWithZero.Nat
import Periscope.Proofs.Json.Places
import Periscope.Proofs.Redaction.Agreement

/-!
# Redaction and selection

At the end of a path that no key rule cuts off, a redacted value has the redacted value of what stood there. At the
first key of a path that a rule matches it has the marker, and nothing below. A report counts, by the names of the
rules, these keys and the replacements in the strings that are not below one. Main result:
`redaction_commutes_with_selection`.
-/

namespace Periscope.Redactor

open Json Redaction

variable {r : Redactor} {v w u : Json} {path front back : List Step} {name : String}
  {hits totals : List (String × Nat)}

/-! ## Paths -/

/-- Whether a step is no key that a key rule matches. -/
def passes (r : Redactor) : Step → Bool
  | .key key => (r.keyRule? key).isNone
  | .index _ => true

/-- Whether no key on a path is matched by a key rule. -/
def isOpen (r : Redactor) (path : List Step) : Bool := path.all r.passes

theorem redactItems_eq (r : Redactor) (items : List Json) : r.redactItems items = items.map r.redactValue := by
  induction items with
  | nil => rfl
  | cons v rest ih => rw [redactItems, ih, List.map_cons]

/-- What stands under a key after redaction. -/
def shownAt (r : Redactor) (key : String) (v : Json) : Json :=
  if (r.keyRule? key).isSome then .str marker else r.redactValue v

theorem redactMembers_eq (r : Redactor) (members : List (String × Json)) :
    r.redactMembers members = members.map fun member => (member.1, r.shownAt member.1 member.2) := by
  induction members with
  | nil => rfl
  | cons member rest ih => rw [redactMembers, ih, List.map_cons]; rfl

/-- What redaction makes of the parts of a value: keys, lengths and orders stay, and all but strings and what is
hidden. -/
inductive Outline (r : Redactor) : Json → Json → Prop
  | null : Outline r .null .null
  | bool (b : Bool) : Outline r (.bool b) (.bool b)
  | num (n : Json.Number) : Outline r (.num n) (.num n)
  | str (s : String) : Outline r (.str s) (.str (r.redactText s))
  | arr (items : List Json) : Outline r (.arr items) (.arr (items.map r.redactValue))
  | obj (members : List (String × Json)) :
      Outline r (.obj members) (.obj (members.map fun member => (member.1, r.shownAt member.1 member.2)))

theorem outline_redactValue (r : Redactor) (v : Json) : r.Outline v (r.redactValue v) := by
  cases v with
  | null => exact .null
  | bool b => exact .bool b
  | num n => exact .num n
  | str s => exact .str s
  | arr items => rw [redactValue, redactItems_eq]; exact .arr items
  | obj members => rw [redactValue, redactMembers_eq]; exact .obj members

theorem child?_redactValue_index (r : Redactor) (v : Json) (i : Nat) :
    (r.redactValue v).child? (.index i) = (v.child? (.index i)).map r.redactValue := by
  cases v with
  | arr items => simp [redactValue, redactItems_eq, child?]
  | _ => rfl

theorem child?_redactValue_key (r : Redactor) (v : Json) (key : String) :
    (r.redactValue v).child? (.key key) = (v.child? (.key key)).map (r.shownAt key) := by
  cases v with
  | obj members =>
    simp only [redactValue, redactMembers_eq, child?]
    induction members with
    | nil => rfl
    | cons member rest ih =>
      obtain ⟨other, w⟩ := member
      rw [List.map_cons, List.lookup_cons, List.lookup_cons]
      cases hkey : key == other with
      | true =>
        rw [beq_iff_eq] at hkey
        rw [hkey]
        rfl
      | false => exact ih
  | _ => rfl

theorem child?_redactValue_of_passes (hstep : r.passes step) (v : Json) :
    (r.redactValue v).child? step = (v.child? step).map r.redactValue := by
  cases step with
  | index i => exact child?_redactValue_index r v i
  | key key =>
    have hnone : r.keyRule? key = none := by simpa [passes] using hstep
    have hshown : r.shownAt key = r.redactValue := by
      funext w
      simp [shownAt, hnone]
    rw [child?_redactValue_key, hshown]

theorem child?_redactValue_of_hides {key : String} (hkey : r.Hides key) (v : Json) :
    (r.redactValue v).child? (.key key) = (v.child? (.key key)).map fun _ => .str marker := by
  have hshown : r.shownAt key = fun _ => .str marker := by
    funext w
    exact if_pos hkey
  rw [child?_redactValue_key, hshown]

theorem at?_redactValue_of_isOpen (hpath : r.isOpen path) (v : Json) :
    (r.redactValue v).at? path = (v.at? path).map r.redactValue := by
  induction path generalizing v with
  | nil => rfl
  | cons step path ih =>
    obtain ⟨hstep, hpath⟩ : r.passes step ∧ r.isOpen path := by simpa [isOpen] using hpath
    rw [at?_cons, at?_cons, child?_redactValue_of_passes hstep, Option.bind_map, Option.map_bind]
    exact congrArg _ (funext fun w => ih hpath w)

/-- A path is cut off at the first key that a rule matches. -/
theorem at?_redactValue_of_hides {key : String} (hfront : r.isOpen front) (hkey : r.Hides key) (v : Json) :
    (r.redactValue v).at? (front ++ .key key :: back) =
      (v.at? (front ++ [.key key])).bind fun _ => (Json.str marker).at? back := by
  rw [at?_append, at?_append, at?_redactValue_of_isOpen hfront, Option.bind_map, Option.bind_assoc]
  refine congrArg _ (funext fun w => ?_)
  rw [Function.comp_apply, at?_cons, child?_redactValue_of_hides hkey, Option.bind_map, at?_cons, Option.bind_assoc]
  rfl

theorem isOpen_or_exists (r : Redactor) (path : List Step) :
    r.isOpen path ∨ ∃ front key back, path = front ++ .key key :: back ∧ r.isOpen front ∧ r.Hides key := by
  induction path with
  | nil => exact .inl rfl
  | cons step path ih =>
    by_cases hstep : r.passes step
    · rcases ih with hpath | ⟨front, key, back, rfl, hfront, hkey⟩
      · exact .inl (by simp_all [isOpen])
      · exact .inr ⟨step :: front, key, back, rfl, by simp_all [isOpen], hkey⟩
    · cases step with
      | index i => exact absurd rfl hstep
      | key key =>
        have hkey : r.Hides key := by simpa [passes, Hides, Option.isSome_iff_ne_none] using hstep
        exact .inr ⟨[], key, path, rfl, rfl, hkey⟩

/-- What is left of a value, path by path. -/
structure Selects (r : Redactor) (v u : Json) : Prop where
  kept : ∀ path w, r.isOpen path → v.at? path = some w → u.at? path = some (r.redactValue w)
  hidden : ∀ front key back, r.isOpen front → r.Hides key → (v.at? (front ++ .key key :: back)).isSome →
    u.at? (front ++ [.key key]) = some (.str marker)
  nothingElse : ∀ path, (u.at? path).isSome → (v.at? path).isSome ∧
    (r.isOpen path ∨ ∃ front key, path = front ++ [.key key] ∧ r.isOpen front ∧ r.Hides key)

theorem selects_redactValue (r : Redactor) (v : Json) : r.Selects v (r.redactValue v) where
  kept path w hpath hw := by rw [at?_redactValue_of_isOpen hpath, hw, Option.map_some]
  hidden front key back hfront hkey hsome := by
    rw [show front ++ .key key :: back = (front ++ [.key key]) ++ back by simp, at?_append] at hsome
    obtain ⟨w, hw⟩ := Option.isSome_iff_exists.1 (Option.isSome_of_isSome_bind hsome)
    rw [at?_redactValue_of_hides hfront hkey, hw]
    rfl
  nothingElse path hsome := by
    rcases r.isOpen_or_exists path with hpath | ⟨front, key, back, rfl, hfront, hkey⟩
    · rw [at?_redactValue_of_isOpen hpath, Option.isSome_map] at hsome
      exact ⟨hsome, .inl hpath⟩
    · rw [at?_redactValue_of_hides hfront hkey] at hsome
      obtain ⟨w, hw⟩ := Option.isSome_iff_exists.1 (Option.isSome_of_isSome_bind hsome)
      cases back with
      | nil => exact ⟨by rw [hw]; rfl, .inr ⟨front, key, rfl, hfront, hkey⟩⟩
      | cons step back => simp [hw, child?] at hsome

/-! ## Totals -/

/-- The sum of the hits under a name. -/
def totalOf (name : String) (hits : List (String × Nat)) : Nat := ((hits.filter (·.1 == name)).map Prod.snd).sum

@[simp] theorem totalOf_nil : totalOf name [] = 0 := rfl

theorem totalOf_cons (name : String) (hit : String × Nat) (hits : List (String × Nat)) :
    totalOf name (hit :: hits) = (if hit.1 = name then hit.2 else 0) + totalOf name hits := by
  by_cases h : hit.1 = name <;> simp [totalOf, h]

theorem totalOf_append (name : String) (hits hits' : List (String × Nat)) :
    totalOf name (hits ++ hits') = totalOf name hits + totalOf name hits' := by
  simp [totalOf]

theorem totalOf_addCount (name other : String) (n : Nat) (totals : List (String × Nat)) :
    totalOf name (addCount other n totals) = (if other = name then n else 0) + totalOf name totals := by
  induction totals with
  | nil => rw [addCount, totalOf_cons]
  | cons first rest ih =>
    obtain ⟨last, m⟩ := first
    rw [addCount]
    split
    · rw [totalOf_cons]
    · split
      · next heq =>
        obtain rfl : other = last := by simpa using heq
        simp only [totalOf_cons]
        split <;> omega
      · rw [totalOf_cons, ih, totalOf_cons]
        omega

theorem totalOf_tally (name : String) (hits : List (String × Nat)) : totalOf name (tally hits) = totalOf name hits := by
  suffices h : ∀ totals, totalOf name (hits.foldl (fun totals hit => addCount hit.1 hit.2 totals) totals) =
      totalOf name totals + totalOf name hits by
    rw [tally, h, totalOf_nil, Nat.zero_add]
  induction hits with
  | nil => exact fun _ => rfl
  | cons hit hits ih =>
    intro totals
    rw [List.foldl_cons, ih, totalOf_addCount, totalOf_cons]
    omega

/-- The names ascend, and nothing is counted as none. -/
structure Tallied (totals : List (String × Nat)) : Prop where
  ascending : totals.Pairwise fun a b => a.1 < b.1
  nonzero : ∀ total ∈ totals, total.2 ≠ 0

theorem name_of_mem_addCount {n : Nat} {total : String × Nat} (h : total ∈ addCount name n totals) :
    total.1 = name ∨ ∃ old ∈ totals, old.1 = total.1 := by
  induction totals with
  | nil => exact .inl (by rw [List.mem_singleton.1 h])
  | cons first rest ih =>
    rw [addCount] at h
    split at h
    · rcases List.mem_cons.1 h with rfl | h
      · exact .inl rfl
      · exact .inr ⟨total, h, rfl⟩
    · split at h
      · rcases List.mem_cons.1 h with rfl | h
        · exact .inr ⟨first, List.mem_cons_self, rfl⟩
        · exact .inr ⟨total, List.mem_cons_of_mem _ h, rfl⟩
      · rcases List.mem_cons.1 h with rfl | h
        · exact .inr ⟨_, List.mem_cons_self, rfl⟩
        · exact (ih h).imp_right fun ⟨old, hold, heq⟩ => ⟨old, List.mem_cons_of_mem _ hold, heq⟩

theorem tallied_addCount {n : Nat} (hn : n ≠ 0) (h : Tallied totals) : Tallied (addCount name n totals) := by
  induction totals with
  | nil => exact ⟨List.pairwise_singleton _ _, by simpa [addCount] using hn⟩
  | cons first rest ih =>
    obtain ⟨other, m⟩ := first
    obtain ⟨hfirst, hrest⟩ := List.pairwise_cons.1 h.ascending
    obtain ⟨hm, hnonzero⟩ := List.forall_mem_cons.1 h.nonzero
    rw [addCount]
    split
    · next hlt =>
      refine ⟨.cons (fun total htotal => ?_) h.ascending, List.forall_mem_cons.2 ⟨hn, h.nonzero⟩⟩
      rcases List.mem_cons.1 htotal with rfl | htotal
      · exact hlt
      · exact String.lt_trans hlt (hfirst total htotal)
    · next hle =>
      split
      · exact ⟨.cons hfirst hrest, List.forall_mem_cons.2 ⟨fun hzero => hm (by omega), hnonzero⟩⟩
      · next hne =>
        have hlt : other < name := by
          refine Decidable.not_not.1 fun hge => hne ?_
          simpa using String.le_antisymm (String.not_lt.1 hge) (String.not_lt.1 hle)
        have tallied := ih ⟨hrest, hnonzero⟩
        refine ⟨.cons (fun total htotal => ?_) tallied.ascending, List.forall_mem_cons.2 ⟨hm, tallied.nonzero⟩⟩
        rcases name_of_mem_addCount htotal with hname | ⟨old, hold, hname⟩
        · rw [hname]
          exact hlt
        · rw [← hname]
          exact hfirst old hold

theorem tallied_tally (h : ∀ hit ∈ hits, hit.2 ≠ 0) : Tallied (tally hits) := by
  suffices step : ∀ totals, Tallied totals →
      Tallied (hits.foldl (fun totals hit => addCount hit.1 hit.2 totals) totals) from
    step [] ⟨.nil, by simp⟩
  induction hits with
  | nil => exact fun _ htotals => htotals
  | cons hit hits ih =>
    intro totals htotals
    obtain ⟨hhit, hhits⟩ := List.forall_mem_cons.1 h
    exact ih hhits _ (tallied_addCount hhit htotals)

theorem Tallied.mem_iff (h : Tallied totals) {n : Nat} :
    (name, n) ∈ totals ↔ n ≠ 0 ∧ n = totalOf name totals := by
  induction totals generalizing n with
  | nil => simp
  | cons first rest ih =>
    obtain ⟨other, m⟩ := first
    obtain ⟨hfirst, hrest⟩ := List.pairwise_cons.1 h.ascending
    obtain ⟨hm, hnonzero⟩ := List.forall_mem_cons.1 h.nonzero
    have ih {n : Nat} := ih ⟨hrest, hnonzero⟩ (n := n)
    rw [List.mem_cons, totalOf_cons]
    by_cases hname : other = name
    · subst hname
      -- every name behind is above
      have hnone (k : Nat) : (other, k) ∉ rest := fun hk =>
        have hlt : other < other := hfirst (other, k) hk
        String.lt_irrefl _ hlt
      have hzero : totalOf other rest = 0 := Decidable.not_not.1 fun hne => hnone _ (ih.2 ⟨hne, rfl⟩)
      rw [if_pos rfl, hzero, Nat.add_zero, Prod.mk.injEq]
      constructor
      · rintro (⟨-, rfl⟩ | hmem)
        · exact ⟨hm, rfl⟩
        · exact absurd hmem (hnone n)
      · rintro ⟨-, rfl⟩
        exact .inl ⟨rfl, rfl⟩
    · have hne : (name, n) ≠ (other, m) := fun heq => hname (congrArg Prod.fst heq).symm
      simp [hne, hname, ih]

/-! ## Counting by places -/

/-- The rule that hides what is at the end of a path: the first one that matches its last key, if none matches a key
before. -/
def coveringRule? (r : Redactor) (path : List Step) : Option Rule :=
  match path.getLast? with
  | some (.key key) => if r.isOpen path.dropLast then r.keyRule? key else none
  | _ => none

/-- How often the rules of a name hide something in a text, one rule after the other. -/
def replacements (name : String) : List ContentRule → List Char → Nat
  | [], _ => 0
  | rule :: rest, text =>
    (if rule.name = name then rule.hitCount text else 0) + replacements name rest (rule.apply text)

/-- The replacements at a place that is not below a key that a rule matches. -/
def replacementsAt (r : Redactor) (name : String) (place : List Step × Json) : Nat :=
  match place with
  | (path, .str s) => if r.isOpen path then replacements name r.contentRules s.toList else 0
  | _ => 0

/-- The places in a value that a key rule of a name hides. -/
def branchesHidden (r : Redactor) (name : String) (v : Json) : Nat :=
  v.places.countP fun place => (r.coveringRule? place.1).any (·.name == name)

/-- The replacements of the rules of a name in the strings of a value. -/
def spansHidden (r : Redactor) (name : String) (v : Json) : Nat := (v.places.map (r.replacementsAt name)).sum

theorem totalOf_runHits (name : String) (rules : List ContentRule) (text : List Char) :
    totalOf name (runHits rules text) = replacements name rules text := by
  induction rules generalizing text with
  | nil => rfl
  | cons rule rules ih => rw [runHits, totalOf_cons, ih, replacements]

theorem totalOf_filter (name : String) (hits : List (String × Nat)) :
    totalOf name (hits.filter fun hit => hit.2 != 0) = totalOf name hits := by
  induction hits with
  | nil => rfl
  | cons hit hits ih =>
    rw [List.filter_cons, totalOf_cons, ← ih]
    by_cases hzero : hit.2 = 0
    · simp [hzero]
    · simp [hzero, totalOf_cons]

theorem totalOf_textHits (r : Redactor) (name s : String) :
    totalOf name (r.textHits s) = replacements name r.contentRules s.toList := by
  rw [textHits, totalOf_filter, totalOf_runHits]

theorem coveringRule?_cons_of_passes (hstep : r.passes step) (path : List Step) :
    r.coveringRule? (step :: path) = r.coveringRule? path := by
  cases path with
  | nil =>
    cases step with
    | index i => rfl
    | key key =>
      have hnone : r.keyRule? key = none := by simpa [passes] using hstep
      simp [coveringRule?, hnone]
  | cons next path => simp [coveringRule?, isOpen, hstep]

theorem coveringRule?_cons_of_hides {key : String} (hkey : r.Hides key) (path : List Step) :
    r.coveringRule? (.key key :: path) = if path = [] then r.keyRule? key else none := by
  cases path with
  | nil => simp [coveringRule?, isOpen]
  | cons next path =>
    have hstep : r.passes (.key key) = false := by
      simpa [passes, Option.isSome_iff_ne_none, Hides] using hkey
    simp only [coveringRule?, isOpen, List.getLast?_cons_cons, List.dropLast_cons_cons, List.all_cons, hstep]
    split <;> simp

/-- What is counted under a name at a place. -/
def hitsAt (r : Redactor) (name : String) (place : List Step × Json) : Nat :=
  (if (r.coveringRule? place.1).any (·.name == name) then 1 else 0) + r.replacementsAt name place

theorem sum_hitsAt (r : Redactor) (name : String) (v : Json) :
    (v.places.map (r.hitsAt name)).sum = r.branchesHidden name v + r.spansHidden name v := by
  rw [branchesHidden, spansHidden]
  induction v.places with
  | nil => rfl
  | cons place places ih =>
    rw [List.map_cons, List.sum_cons, ih, List.countP_cons, List.map_cons, List.sum_cons, hitsAt]
    omega

theorem hitsAt_cons_of_passes (hstep : r.passes step) (place : List Step × Json) :
    r.hitsAt name (step :: place.1, place.2) = r.hitsAt name place := by
  obtain ⟨path, w⟩ := place
  have hopen : r.isOpen (step :: path) = r.isOpen path := by simp [isOpen, hstep]
  simp only [hitsAt, coveringRule?_cons_of_passes hstep]
  cases w with
  | str s => simp only [replacementsAt, hopen]
  | _ => rfl

theorem hitsAt_cons_of_hides {key : String} {rule : Rule} (hkey : r.keyRule? key = some rule)
    (place : List Step × Json) :
    r.hitsAt name (.key key :: place.1, place.2) = if place.1 = [] ∧ rule.name = name then 1 else 0 := by
  obtain ⟨path, w⟩ := place
  have hhides : r.Hides key := by simp [Hides, hkey]
  have hclosed : r.isOpen (.key key :: path) = false := by simp [isOpen, passes, hkey]
  have hnone : r.replacementsAt name (.key key :: path, w) = 0 := by
    cases w with
    | str s => simp only [replacementsAt, hclosed]; rfl
    | _ => rfl
  rw [hitsAt, hnone, coveringRule?_cons_of_hides hhides]
  by_cases hnil : path = [] <;> simp [hnil, hkey]

theorem sum_hitsAt_of_passes (hstep : r.passes step) (places : List (List Step × Json)) :
    ((places.map fun place => (step :: place.1, place.2)).map (r.hitsAt name)).sum =
      (places.map (r.hitsAt name)).sum := by
  rw [List.map_map]
  exact congrArg _ (List.map_congr_left fun place _ => hitsAt_cons_of_passes hstep place)

theorem sum_hitsAt_of_hides {key : String} {rule : Rule} (hkey : r.keyRule? key = some rule) (v : Json) :
    ((v.places.map fun place => (.key key :: place.1, place.2)).map (r.hitsAt name)).sum =
      if rule.name = name then 1 else 0 := by
  obtain ⟨inner, heq, hinner⟩ := exists_places_eq v
  have hzero : (inner.map (r.hitsAt name ∘ fun place => (.key key :: place.1, place.2))).sum = 0 := by
    refine List.sum_eq_zero fun n hn => ?_
    obtain ⟨place, hplace, rfl⟩ := List.mem_map.1 hn
    exact (hitsAt_cons_of_hides hkey place).trans (if_neg fun h => hinner place hplace h.1)
  have hfirst : r.hitsAt name (.key key :: [], v) = if [] = [] ∧ rule.name = name then 1 else 0 :=
    hitsAt_cons_of_hides hkey ([], v)
  -- of all places below the key, only the first is counted
  rw [heq, List.map_map, List.map_cons, List.sum_cons, hzero, Nat.add_zero, Function.comp_apply, hfirst]
  simp

mutual

/-- The hits in a value are what is counted at its places. -/
theorem totalOf_valueHits (r : Redactor) (name : String) :
    (v : Json) → totalOf name (r.valueHits v) = (v.places.map (r.hitsAt name)).sum
  | .null => rfl
  | .bool _ => rfl
  | .num _ => rfl
  | .str s => by
      have here : (Json.str s).places = [([], .str s)] := rfl
      rw [valueHits, totalOf_textHits, here]
      simp [hitsAt, replacementsAt, coveringRule?, isOpen]
  | .arr items => by
      rw [valueHits, totalOf_itemHits r name 0 items, places, List.map_cons, List.sum_cons]
      exact (Nat.zero_add _).symm
  | .obj members => by
      rw [valueHits, totalOf_memberHits r name members, places, List.map_cons, List.sum_cons]
      exact (Nat.zero_add _).symm

theorem totalOf_itemHits (r : Redactor) (name : String) (i : Nat) :
    (items : List Json) → totalOf name (r.itemHits items) = ((itemPlaces i items).map (r.hitsAt name)).sum
  | [] => rfl
  | v :: rest => by
      have hstep : r.passes (.index i) := rfl
      rw [itemHits, totalOf_append, totalOf_valueHits r name v, totalOf_itemHits r name (i + 1) rest, itemPlaces,
        List.map_append, List.sum_append, sum_hitsAt_of_passes hstep]

theorem totalOf_memberHits (r : Redactor) (name : String) : (members : List (String × Json)) →
    totalOf name (r.memberHits members) = ((memberPlaces members).map (r.hitsAt name)).sum
  | [] => rfl
  | (key, v) :: rest => by
      simp only [memberHits, totalOf_append, totalOf_memberHits r name rest, memberPlaces, List.map_append,
        List.sum_append]
      cases hkey : r.keyRule? key with
      | some rule =>
        rw [sum_hitsAt_of_hides hkey, totalOf_cons, totalOf_nil, Nat.add_zero]
      | none =>
        have hstep : r.passes (.key key) := by simp [passes, hkey]
        rw [totalOf_valueHits r name v, sum_hitsAt_of_passes hstep]

end

mutual

theorem ne_zero_of_mem_valueHits (r : Redactor) : (v : Json) → ∀ hit ∈ r.valueHits v, hit.2 ≠ 0
  | .null => by simp [valueHits]
  | .bool _ => by simp [valueHits]
  | .num _ => by simp [valueHits]
  | .str s => by simp [valueHits, textHits]
  | .arr items => ne_zero_of_mem_itemHits r items
  | .obj members => ne_zero_of_mem_memberHits r members

theorem ne_zero_of_mem_itemHits (r : Redactor) : (items : List Json) → ∀ hit ∈ r.itemHits items, hit.2 ≠ 0
  | [] => by simp [itemHits]
  | v :: rest => by
      rw [itemHits, List.forall_mem_append]
      exact ⟨ne_zero_of_mem_valueHits r v, ne_zero_of_mem_itemHits r rest⟩

theorem ne_zero_of_mem_memberHits (r : Redactor) :
    (members : List (String × Json)) → ∀ hit ∈ r.memberHits members, hit.2 ≠ 0
  | [] => by simp [memberHits]
  | (key, v) :: rest => by
      simp only [memberHits, List.forall_mem_append]
      refine ⟨?_, ne_zero_of_mem_memberHits r rest⟩
      cases r.keyRule? key with
      | some rule => simp
      | none => exact ne_zero_of_mem_valueHits r v

end

/-- The report of a value: every rule name with something to count stands once, by ascending name, with the number of
keys that hide something by a rule of the name and of the replacements by rules of the name. -/
structure Counts (r : Redactor) (v : Json) (report : List (String × Nat)) : Prop where
  ascending : report.Pairwise fun a b => a.1 < b.1
  mem_iff : ∀ name n, (name, n) ∈ report ↔ n ≠ 0 ∧ n = r.branchesHidden name v + r.spansHidden name v

theorem counts_report (r : Redactor) (v : Json) : r.Counts v (r.report v) := by
  have tallied := tallied_tally (r.ne_zero_of_mem_valueHits v)
  refine ⟨tallied.ascending, fun name n => ?_⟩
  rw [report, tallied.mem_iff, totalOf_tally, totalOf_valueHits, sum_hitsAt]

/-- Redaction commutes with selection, and reports what it hides place by place. In a value whose objects have no key
twice, the places are its paths. -/
theorem redaction_commutes_with_selection (r : Redactor) (v : Json) :
    r.Selects v (r.redactValue v) ∧
    (∀ w, r.Outline w (r.redactValue w)) ∧
    r.Counts v (r.report v) ∧
    (v.KeysUnique → (v.places.map Prod.fst).Nodup ∧ ∀ path w, (path, w) ∈ v.places ↔ v.at? path = some w) :=
  ⟨r.selects_redactValue v, r.outline_redactValue, r.counts_report v, fun unique =>
    ⟨nodup_places v unique, fun _ _ => mem_places_iff unique⟩⟩

/-- An assignment in an array, and a password with something below it. -/
def launchSettings : Json :=
  .obj [("args", .arr [.str "token=abc"]), ("env", .obj [("password", .obj [("old", .str "token=abc")])])]

theorem redaction_commutes_with_selection_launch :
    (builtin.redactValue launchSettings).at? [.key "args", .index 0] = some (.str "token=[REDACTED]") ∧
      (builtin.redactValue launchSettings).at? [.key "env", .key "password"] = some (.str marker) ∧
      builtin.report launchSettings = [("ASSIGNMENT", 1), ("key:password", 1)] ∧
      1 = builtin.branchesHidden "ASSIGNMENT" launchSettings + builtin.spansHidden "ASSIGNMENT" launchSettings ∧
      ([.key "args", .index 0], .str "token=abc") ∈ launchSettings.places := by
  obtain ⟨selects, -, counts, places⟩ := redaction_commutes_with_selection builtin launchSettings
  have redacted : builtin.redactText "token=abc" = "token=[REDACTED]" := by decide +kernel
  have report : builtin.report launchSettings = [("ASSIGNMENT", 1), ("key:password", 1)] := by decide +kernel
  have kept := selects.kept [.key "args", .index 0] (.str "token=abc") (by decide) rfl
  rw [redactValue, redacted] at kept
  have hides : (builtin.keyRule? "password").isSome := by decide
  have hidden := selects.hidden [.key "env"] "password" [.key "old"] (by decide) hides rfl
  have counted := (counts.mem_iff "ASSIGNMENT" 1).1 (by rw [report]; exact List.mem_cons_self)
  have unique : launchSettings.KeysUnique := by
    simp [launchSettings, KeysUnique, itemKeysUnique, memberKeysUnique]
  exact ⟨kept, hidden, report, counted.2, ((places unique).2 _ _).2 rfl⟩

end Periscope.Redactor
