import Periscope.Proofs.Redaction.Idempotence
import Periscope.Proofs.Text.Lowercase

/-!
# A rule on its own result

Eight of the nine built-in rules find nothing to hide in what they leave of a text. The rule for assigned values
may find the word of a scheme that it has kept in front of a hidden value: the pattern compares letters in all of
Unicode and the veto in ASCII alone, and they differ on the long s. Main result: `stableOn_iff`;
`assignmentRule_not_stable` has a text.
-/

namespace Periscope.Redaction

open Pattern

variable {text w secret : List Char} {as₁ as₂ : List Atom} {c x : Char} {prev next : Option Char}

/-- The rule finds nothing to hide in what it leaves of the text. -/
def ContentRule.StableOn (rule : ContentRule) (text : List Char) : Prop :=
  rule.hitCount (rule.apply text) = 0 ∧ rule.apply (rule.apply text) = rule.apply text

instance (rule : ContentRule) (text : List Char) : Decidable (rule.StableOn text) :=
  inferInstanceAs (Decidable (_ ∧ _))

theorem ContentRule.stableOn_iff_hitCount {rule : ContentRule} :
    rule.StableOn text ↔ rule.hitCount (rule.apply text) = 0 :=
  ⟨And.left, fun h => ⟨h, apply_of_hitCount h⟩⟩

/-! ## Signed tokens -/

theorem signedToken_edges (has : signedTokenRule.atoms text = as₁ ++ .hidden secret :: as₂) :
    secret ≠ [] ∧ ¬(IsWordAt (textOf as₁).getLast? ↔ IsWordAt secret.head?) ∧
      ¬(IsWordAt secret.getLast? ↔ IsWordAt (textOf as₂).head?) := by
  obtain ⟨hit, rfl, hmatch, -⟩ := ContentRule.hidden_of_whole rfl has
  obtain ⟨stop, -, htext, -, h⟩ := matchAt_eq_some hmatch
  obtain ⟨htoken, hleft, hright⟩ := accepts_signedToken.1 h
  rw [← List.append_cancel_left htext] at hleft hright
  have hne := htoken.unmarked.ne_nil
  rw [List.head?_eq_some_head hne, Option.some_or] at hleft
  rw [List.getLast?_eq_some_getLast hne, Option.some_or] at hright
  rw [List.head?_eq_some_head hne, List.getLast?_eq_some_getLast hne]
  exact ⟨hne, hleft, hright⟩

/-- An edge of a word before a kept character is there in the text, too. -/
theorem signedToken_edge_before (has : signedTokenRule.atoms text = as₁ ++ .kept c :: as₂)
    (h : ¬(IsWordAt (shownOf as₁).getLast? ↔ IsWordAt (some c))) :
    ¬(IsWordAt (textOf as₁).getLast? ↔ IsWordAt (some c)) := by
  rcases List.eq_nil_or_concat as₁ with rfl | ⟨init, d | secret, rfl⟩
  · exact h
  · simpa [List.getLast?_append] using h
  · obtain ⟨hne, -, hright⟩ := signedToken_edges (has.trans (by simp) : _ = init ++ .hidden secret :: .kept c :: as₂)
    simpa [List.getLast?_append, List.getLast?_eq_some_getLast hne] using hright

theorem signedToken_edge_behind (has : signedTokenRule.atoms text = as₁ ++ .kept c :: as₂)
    (h : ¬(IsWordAt (some c) ↔ IsWordAt (shownOf as₂).head?)) :
    ¬(IsWordAt (some c) ↔ IsWordAt (textOf as₂).head?) := by
  rcases as₂ with _ | ⟨d | secret, as₂⟩
  · exact h
  · exact h
  · obtain ⟨hne, hleft, -⟩ :=
      signedToken_edges (has.trans (by simp) : _ = (as₁ ++ [.kept c]) ++ .hidden secret :: as₂)
    simpa [List.getLast?_append, List.head?_append, List.head?_eq_some_head hne] using hleft

theorem signedTokenRule_free : ¬signedToken.OccursIn (signedTokenRule.apply text) := by
  intro h
  obtain ⟨a, w, b, htext, hw⟩ := occursIn_iff.1 h
  obtain ⟨htoken, hleft, hright⟩ := accepts_signedToken.1 hw
  obtain ⟨as₁, as₂, has, rfl, rfl⟩ := ContentRule.locate htoken.unmarked htext
  refine ContentRule.not_accepts_kept rfl (fun _ => rfl) (fun h => (accepts_signedToken.1 h).1.unmarked.foreign) has
    (accepts_signedToken.2 ⟨htoken, ?_, ?_⟩)
  · obtain ⟨x, v, rfl⟩ := List.exists_cons_of_ne_nil htoken.unmarked.ne_nil
    exact signedToken_edge_before has hleft
  · obtain ⟨v, x, rfl⟩ := (List.eq_nil_or_concat w).resolve_left htoken.unmarked.ne_nil
    have has' : signedTokenRule.atoms text = (as₁ ++ v.map .kept) ++ .kept x :: as₂ := by simpa using has
    rw [List.concat_eq_append, List.getLast?_concat, Option.some_or] at hright ⊢
    exact signedToken_edge_behind has' hright

/-! ## Words of schemes and the veto -/

theorem Spells.length_eq {cs : List Char} (h : Spells cs w) : w.length = cs.length := by
  induction cs generalizing w with
  | nil => rw [show w = [] from h]
  | cons c cs ih =>
    obtain ⟨x, v, rfl, -, hv⟩ := h
    rw [List.length_cons, List.length_cons, ih hv]

theorem IsScheme.eq_nil_of_append {d : List Char} (h : IsScheme w) (hd : IsScheme (d ++ w)) : d = [] := by
  have hapart : (Text.foldOrbit 'e').all fun x => !(Text.foldOrbit 'b').contains x := by decide
  rcases h with h | h <;> rcases hd with hd | hd
  · simpa [h.length_eq] using hd.length_eq
  · have := hd.length_eq
    simp [h.length_eq] at this
  · obtain ⟨x, v, rfl, hx, -⟩ := id h
    have hlen := hd.length_eq
    obtain ⟨y, rfl⟩ : ∃ y, d = [y] := List.length_eq_one_iff.1 (by simp [h.length_eq] at hlen ⊢; omega)
    obtain ⟨_, _, heq, -, z, _, rfl, hz, -⟩ := hd
    cases heq
    have hdisjoint : x ∉ Text.foldOrbit 'b' := by simpa using List.all_eq_true.1 hapart _ hz
    exact absurd hx hdisjoint
  · simpa [h.length_eq] using hd.length_eq

/-- The letters of the words of schemes. -/
def schemeLetters : List Char := "bearsic".toList

theorem mem_schemeLetters : ∀ word ∈ ["bearer", "basic"], ∀ c ∈ word.toList, c ∈ schemeLetters := by
  have hall : ["bearer", "basic"].all fun word => word.toList.all (schemeLetters.contains ·) := by decide
  simpa using hall

theorem Spells.of_toLower {cs : List Char} (hcs : ∀ c ∈ cs, c ∈ schemeLetters) (h : w.map Char.toLower = cs) :
    Spells cs w := by
  have hall : schemeLetters.all fun c => (Text.foldOrbit c).contains c &&
      (Text.foldOrbit c).contains (Char.ofNat (c.toNat - 32)) := by decide +kernel
  induction w generalizing cs with
  | nil => exact h ▸ rfl
  | cons x w ih =>
    subst h
    refine ⟨x, w, rfl, ?_, ih (fun c hc => hcs c (List.mem_cons_of_mem _ hc)) rfl⟩
    have hboth := List.all_eq_true.1 hall _ (hcs _ List.mem_cons_self)
    simp only [Bool.and_eq_true, List.contains_iff_mem] at hboth
    obtain ⟨hself, hcapital⟩ := hboth
    rcases Text.toLower_cases (rfl : x.toLower = x.toLower) with hx | ⟨hx, -⟩
    · rwa [← hx] at hself ⊢
    · rwa [← hx, Nat.add_sub_cancel, Char.ofNat_toNat] at hcapital

theorem isScheme_of_veto (h : isNotAuthScheme w = false) : IsScheme w := by
  simp only [isNotAuthScheme, Bool.and_eq_false_iff, bne_eq_false_iff_eq] at h
  exact h.imp (Spells.of_toLower (mem_schemeLetters _ (.head _)))
    (Spells.of_toLower (mem_schemeLetters _ (.tail _ (.head _))))

theorem Spells.toLower_eq {cs : List Char} (hcs : ∀ c ∈ cs, c ∈ schemeLetters) (h : Spells cs w) (hw : 'ſ' ∉ w) :
    w.map Char.toLower = cs := by
  have hall : schemeLetters.all fun c => (Text.foldOrbit c).all fun x => x == 'ſ' || x.toLower == c := by
    decide +kernel
  induction cs generalizing w with
  | nil => rw [show w = [] from h, List.map_nil]
  | cons c cs ih =>
    obtain ⟨x, v, rfl, hx, hv⟩ := h
    obtain ⟨hxw, hvw⟩ := not_or.1 (mt List.mem_cons.2 hw)
    have hlower := List.all_eq_true.1 (List.all_eq_true.1 hall c (hcs c List.mem_cons_self)) x hx
    simp only [Bool.or_eq_true, beq_iff_eq] at hlower
    rw [List.map_cons, hlower.resolve_left (Ne.symm hxw), ih (fun d hd => hcs d (List.mem_cons_of_mem _ hd)) hv hvw]

/-- The veto knows the word of a scheme unless there is a long s in it. -/
theorem IsScheme.isNotAuthScheme_iff (h : IsScheme w) : isNotAuthScheme w ↔ 'ſ' ∈ w := by
  constructor
  · intro hveto
    refine Decidable.byContradiction fun hw => ?_
    have hlower : w.map Char.toLower = "bearer".toList ∨ w.map Char.toLower = "basic".toList :=
      h.imp (fun h => h.toLower_eq (mem_schemeLetters _ (.head _)) hw)
        (fun h => h.toLower_eq (mem_schemeLetters _ (.tail _ (.head _))) hw)
    simp only [isNotAuthScheme, Bool.and_eq_true, bne_iff_ne, ne_eq] at hveto
    exact hlower.elim hveto.1 hveto.2
  · intro hmem
    have hlower : 'ſ' ∈ w.map Char.toLower := List.mem_map.2 ⟨'ſ', hmem, by decide⟩
    simp only [isNotAuthScheme, Bool.and_eq_true, bne_iff_ne, ne_eq]
    exact ⟨fun heq => absurd (heq ▸ hlower) (by decide), fun heq => absurd (heq ▸ hlower) (by decide)⟩

/-! ## Assigned values -/

variable {site front value rest : List Char}

/-- The rule for assigned values keeps the word of a scheme in front of a value that it hides. -/
def KeepsScheme (text scheme : List Char) : Prop :=
  IsScheme scheme ∧ ∃ as₁ blanks value as₂, (blanks ≠ [] ∧ Over .blank blanks) ∧
    assignmentRule.atoms text = as₁ ++ ((scheme ++ blanks).map .kept ++ .hidden value :: as₂)

/-- A hidden value ends before a character that no name has. -/
theorem getLast?_before_name (has : assignmentRule.atoms text = as₁ ++ .kept c :: as₂) (hc : nameChar.contains c) :
    (shownOf as₁).getLast? = (textOf as₁).getLast? := by
  rcases List.eq_nil_or_concat as₁ with rfl | ⟨init, d | value, rfl⟩
  · rfl
  · simp [List.getLast?_append]
  · obtain ⟨_, _, _, -, h, -⟩ :=
      assigned_of_hidden (has.trans (by simp) : _ = init ++ .hidden value :: .kept c :: as₂)
    have := h.stops c rfl
    simp [CharSet.contains, not_valueEnd_of_nameChar hc] at this

theorem Assigned.unmarked (h : Assigned prev rest site front value) : Unmarked (site ++ (front ++ value)) := by
  have hbracket : ∀ c, c = '[' ∨ c = ']' → c ∉ site ++ (front ++ value) := by
    intro c hc
    have hend : valueEnd.contains c := by rcases hc with rfl | rfl <;> decide
    have hname := not_nameChar_of_valueEnd hend
    have hblank : Text.isBlank c = false := by rcases hc with rfl | rfl <;> decide
    have hsep : separatorChar.contains c = false := by rcases hc with rfl | rfl <;> decide
    obtain ⟨name, separator, rfl, hisName, hisSep⟩ := h.isSite
    have hfront : c ∉ front := by
      rcases h.isFront with rfl | ⟨scheme, blanks, rfl, hscheme, -, hblanks⟩
      · exact List.not_mem_nil
      · exact fun hmem => (List.mem_append.1 hmem).elim (hscheme.over.not_mem hname) (hblanks.not_mem hblank)
    have hvalue : c ∉ value := h.over_value.not_mem (by simp [CharSet.contains, hend])
    simp [hisName.1.not_mem hname, hisSep.over.not_mem hsep, hfront, hvalue]
  have hforeign : ∃ x ∈ site, x ∉ marker.toList := by
    obtain ⟨name, separator, rfl, -, hisSep⟩ := h.isSite
    obtain ⟨x, hx, -⟩ := hisSep.exists_sign
    exact ⟨x, List.mem_append_right _ hx, not_mem_marker_of_separatorChar (hisSep.over x hx)⟩
  obtain ⟨x, hx, hx'⟩ := hforeign
  exact ⟨hbracket '[' (.inl rfl), hbracket ']' (.inr rfl), x, List.mem_append_left _ hx, hx'⟩

/-- A value is not the marker, so only the veto keeps it. -/
theorem Assigned.vetoed (h : Assigned prev rest site front value)
    (hveto : value = marker.toList ∨ assignmentRule.accepts value = false) : isNotAuthScheme value = false := by
  refine hveto.resolve_left ?_
  rintro rfl
  exact h.unmarked.noOpen (by simp [marker])

/-- A value that is assigned inside a match that the rule keeps is the value of that match. -/
theorem Assigned.vetoed_inside {prev' : Option Char} {rest rest' site' front' value' u v w : List Char} {x : Char}
    (h : Assigned prev rest site front value) (h' : Assigned prev' rest' site' front' value')
    (hveto : isNotAuthScheme value' = false) (hsite : site = x :: w) (hhit : u ++ x :: v = site' ++ (front' ++ value'))
    (hrest : w ++ (front ++ (value ++ rest)) = v ++ rest') : isNotAuthScheme value = false := by
  have heq : u ++ (site ++ (front ++ (value ++ rest))) = site' ++ (front' ++ (value' ++ rest')) := by
    calc u ++ (site ++ (front ++ (value ++ rest)))
      _ = u ++ x :: (w ++ (front ++ (value ++ rest))) := by rw [hsite, List.cons_append]
      _ = (u ++ x :: v) ++ rest' := by rw [hrest]; simp
      _ = site' ++ (front' ++ (value' ++ rest')) := by rw [hhit]; simp
  rcases h.cases h' (isScheme_of_veto hveto) heq with rfl | ⟨e, rfl⟩
  · exact hveto
  · have hlength := congrArg List.length hhit
    simp at hlength

/-- An assigned value that the rule keeps is the word of a scheme: one that the veto knows, or one in front of a
hidden value. -/
theorem Assigned.of_kept (h : Assigned (textOf as₁).getLast? (shownOf as₂) site front value)
    (has : assignmentRule.atoms text = as₁ ++ ((site ++ (front ++ value)).map .kept ++ as₂)) :
    isNotAuthScheme value = false ∨ KeepsScheme text value := by
  obtain ⟨x, s, hs, hx⟩ := h.isSite.head
  have hhead : assignmentRule.atoms text = as₁ ++ .kept x :: ((s ++ (front ++ value)).map .kept ++ as₂) := by
    rw [has, hs]
    rfl
  obtain ⟨as₀, _, _, as₃, rfl, htail, htile⟩ := ContentRule.tile_of_atoms hhead
  rcases htile.kept_inv with ⟨rfl, rfl, hnone⟩ | ⟨hit, u, v, rfl, rfl, hhit, hmatch, hveto⟩ |
    ⟨hit, u, v, secret, back, rfl, rfl, hmatch, haims⟩ | ⟨hit, _, _, u, v, rfl, rfl, hmatch, haims⟩
  · -- There would be a match.
    obtain rfl := (htail : _ = as₃)
    have hsite : x :: (s ++ (front ++ value)) = site ++ (front ++ value) := by rw [hs, List.cons_append]
    rw [textOf_append, textOf_map_kept, ← List.cons_append, hsite] at hnone
    rw [List.append_nil] at h
    exact absurd h.accepts (not_accepts_of_matchAt hnone ne_nil_of_accepts_assignment)
  · -- A match that the rule keeps begins in front of it.
    obtain ⟨site', front', value', h', haims⟩ := assignment_hit hmatch rfl
    refine .inl (h.vetoed_inside h'.shown (h'.vetoed (hveto _ _ _ haims)) (u := u) (v := v) (w := s) hs ?_ ?_)
    · rw [← hhit, haims.text]
      simp
    · simpa using congrArg shownOf htail
  · -- It stands in front of a value that is hidden.
    obtain ⟨site', front', value', h', haims'⟩ := assignment_hit hmatch rfl
    obtain ⟨hfront, rfl, rfl⟩ := haims.unique haims'
    have htail' : (s ++ (front ++ value)).map .kept ++ as₂ = v.map .kept ++ .hidden secret :: as₃ := by
      simpa using htail
    obtain ⟨e, rfl⟩ := map_kept_prefix htail'
    obtain rfl : as₂ = e.map .kept ++ .hidden secret :: as₃ := by simpa using htail'
    have he : Stops (.compl valueEnd) e.head? := by
      have hstops := h.stops
      cases e with
      | nil => exact .nil
      | cons y e => simpa using hstops
    have heq : u ++ (site ++ (front ++ (value ++ e))) = site' ++ front' := by
      rw [← hfront, hs]
      simp
    obtain ⟨hscheme, hne, hblanks⟩ := h.inside_front h' he heq
    refine .inr ⟨hscheme, as₀ ++ (u ++ (site ++ front)).map .kept, e, secret, as₃, ⟨hne, hblanks⟩, ?_⟩
    rw [has]
    simp
  · obtain ⟨site', front', value', h', haims'⟩ := assignment_hit hmatch rfl
    obtain ⟨-, -, hback⟩ := haims.unique haims'
    simp at hback

/-- A scheme with its blanks that ends where the front of a value ends is that front. -/
theorem IsSite.front_eq {scheme blanks u v : List Char} (hsite : IsSite site)
    (hfront : front = [] ∨ IsBearerFront front) (hscheme : IsScheme scheme) (hblanks : Over .blank blanks)
    (heq : u ++ (scheme ++ blanks) = v ++ (site ++ front)) : front = scheme ++ blanks := by
  have hlast : ∀ {S : CharSet} {u w : List Char}, w ≠ [] → Over nameChar w →
      (∀ c, S.contains c → nameChar.contains c = false) → Stops S (u ++ w).getLast? := by
    intro S u w hne hw hS
    refine .last hne fun x hx => Bool.eq_false_iff.2 fun hSx => ?_
    have := hw x hx
    simp [hS x hSx] at this
  have hword : ∀ {scheme u}, IsScheme scheme → ∀ {S : CharSet}, (∀ c, S.contains c → nameChar.contains c = false) →
      Stops S (u ++ scheme).getLast? := by
    intro scheme u h S hS
    obtain ⟨x, w, rfl, -⟩ := h.head
    exact hlast (List.cons_ne_nil _ _) h.over hS
  rcases hfront with rfl | ⟨scheme', blanks', rfl, hscheme', -, hblanks'⟩
  · -- The separator would be blanks alone.
    obtain ⟨name, separator, rfl, hname, hsep⟩ := hsite
    have hblanksSep : Over separatorChar blanks := fun c hc => contains_separatorChar.2 (.inr (.inl (hblanks c hc)))
    obtain ⟨-, rfl⟩ := over_unique_last hblanksSep hsep.over (hword hscheme fun _ => not_nameChar_of_separatorChar)
      (hlast hname.ne_nil hname.1 fun _ => not_nameChar_of_separatorChar) (by simpa using heq)
    obtain ⟨x, hx, hsign⟩ := hsep.exists_sign
    have hblank := hblanks x hx
    rcases contains_signMark.1 hsign with rfl | rfl <;> exact absurd hblank (by decide)
  · have hblank : ∀ c, CharSet.blank.contains c → nameChar.contains c = false := fun _ => not_nameChar_of_blank
    obtain ⟨hwords, rfl⟩ := over_unique_last hblanks hblanks' (hword hscheme hblank) (hword hscheme' hblank)
      (show (u ++ scheme) ++ blanks = ((v ++ site) ++ scheme') ++ blanks' by simpa using heq)
    rcases List.append_eq_append_iff.1 hwords with ⟨d, -, rfl⟩ | ⟨d, -, rfl⟩
    · rw [hscheme'.eq_nil_of_append hscheme, List.nil_append]
    · rw [hscheme.eq_nil_of_append hscheme', List.nil_append]

/-- In front of a hidden value the word of a scheme is the one that the match passes over. -/
theorem KeepsScheme.exists_site {scheme : List Char} (h : KeepsScheme text scheme) :
    ∃ as₀ site blanks value as₂, (blanks ≠ [] ∧ Over .blank blanks) ∧
      assignmentRule.atoms text = as₀ ++ ((site ++ (scheme ++ blanks)).map .kept ++ .hidden value :: as₂) ∧
      Assigned (textOf as₀).getLast? (textOf as₂) site (scheme ++ blanks) value := by
  obtain ⟨hscheme, as₁, blanks, value, as₂, ⟨hne, hblanks⟩, has⟩ := h
  rw [← List.append_assoc] at has
  obtain ⟨as₀, site, front, hsplit, h, -⟩ := assigned_of_hidden has
  have htext : textOf as₁ ++ (scheme ++ blanks) = textOf as₀ ++ (site ++ front) := by
    simpa using congrArg textOf hsplit
  obtain rfl := h.isSite.front_eq h.isFront hscheme hblanks htext
  refine ⟨as₀, site, blanks, value, as₂, ⟨hne, hblanks⟩, ?_, h⟩
  rw [has, hsplit, List.append_assoc]

/-- The rule for assigned values is stable on a text exactly when the veto knows all words of schemes that it
keeps there. -/
theorem hitCount_assignmentRule_apply : assignmentRule.hitCount (assignmentRule.apply text) = 0 ↔
    ∀ scheme, KeepsScheme text scheme → isNotAuthScheme scheme = false := by
  constructor
  · intro hnone scheme hkeeps
    obtain ⟨as₀, site, blanks, value, as₂, ⟨hne, hblanks⟩, has, h⟩ := hkeeps.exists_site
    obtain ⟨x, s, hs, hx⟩ := h.isSite.head
    have hprev : (shownOf as₀).getLast? = (textOf as₀).getLast? :=
      getLast?_before_name (has.trans (by rw [hs]; rfl)) hx
    have hkept := ContentRule.atoms_of_hitCount hnone
    -- The scheme is a value in the result, where the bracket of the marker ends the blanks behind it.
    have hvalue : Assigned (textOf ((shownOf as₀).map .kept)).getLast?
        (shownOf ((blanks ++ (marker.toList ++ shownOf as₂)).map .kept)) site [] scheme := by
      rw [textOf_map_kept, shownOf_map_kept, hprev]
      exact .of_scheme h.isSite h.edge hkeeps.1 hne hblanks (.some (by decide)) (.some (by decide))
    have hout : assignmentRule.atoms (assignmentRule.apply text) = (shownOf as₀).map .kept ++
        ((site ++ ([] ++ scheme)).map .kept ++ (blanks ++ (marker.toList ++ shownOf as₂)).map .kept) := by
      rw [hkept, ← ContentRule.shownOf_atoms, has]
      simp
    rcases hvalue.of_kept hout with hvetoed | ⟨-, as₁, _, value, _, -, hhidden⟩
    · exact hvetoed
    · rw [hkept, ← List.append_assoc] at hhidden
      obtain ⟨_, _, _, -, -, hatom, -⟩ := ContentRule.split_map_kept hhidden
      cases hatom
  · intro h
    refine ContentRule.hitCount_eq_zero fun bs₁ value bs₂ hbs => ?_
    obtain ⟨bs₀, site, front, rfl, hassigned, haccepts⟩ := assigned_of_hidden hbs
    have hshown : assignmentRule.apply text = textOf bs₀ ++ ((site ++ (front ++ value)) ++ textOf bs₂) := by
      rw [ContentRule.text_of_hidden hbs]
      simp
    obtain ⟨as₁, as₂, has, hbefore, hbehind⟩ := ContentRule.locate hassigned.unmarked hshown
    obtain ⟨x, s, hs, hx⟩ := hassigned.isSite.head
    have hprev : (shownOf as₁).getLast? = (textOf as₁).getLast? := getLast?_before_name (has.trans (by rw [hs]; rfl)) hx
    rw [hbefore, hbehind, hprev] at hassigned
    have hvetoed := (hassigned.of_kept has).elim id (h value)
    simp [hvetoed] at haccepts

/-! ## All rules -/

/-- Each built-in rule finds nothing to hide in what it leaves of a text, but for the rule for assigned values
where it keeps the word of a scheme with a long s in it. -/
theorem stableOn_iff : ∀ rule ∈ builtinContentRules, ∀ text, rule.StableOn text ↔
    (rule.name = "ASSIGNMENT" → ∀ scheme, KeepsScheme text scheme → 'ſ' ∉ scheme) := by
  have hfree : ∀ {rule : ContentRule}, rule.name ≠ "ASSIGNMENT" →
      (∀ text, rule.hitCount (rule.apply text) = 0) → ∀ text, rule.StableOn text ↔
        (rule.name = "ASSIGNMENT" → ∀ scheme, KeepsScheme text scheme → 'ſ' ∉ scheme) :=
    fun hname h text => iff_of_true (ContentRule.stableOn_iff_hitCount.2 (h text)) fun heq => absurd heq hname
  simp only [builtinContentRules, List.forall_mem_cons]
  refine ⟨?_, ?_, ?_, ?_, ?_, ?_, ?_, ?_, ?_, List.forall_mem_nil _⟩
  · exact hfree (by decide) fun _ => hitCount_of_not_occursIn privateKeyRule_keyFree.not_occursIn
  · exact hfree (by decide) fun _ => urlCredentialsRule_free
  · intro text
    rw [ContentRule.stableOn_iff_hitCount, hitCount_assignmentRule_apply,
      imp_iff_right (show assignmentRule.name = "ASSIGNMENT" from rfl)]
    refine forall_congr' fun scheme => forall_congr' fun hkeeps => ?_
    rw [← hkeeps.1.isNotAuthScheme_iff, Bool.not_eq_true]
  · exact hfree (by decide) fun _ => hitCount_of_not_occursIn bearerTokenRule_free
  · exact hfree (by decide) fun _ => hitCount_of_not_occursIn webTokenRule_free
  · exact hfree (by decide) fun _ => hitCount_of_not_occursIn signedTokenRule_free
  · exact hfree (by decide) fun _ =>
      hitCount_of_not_occursIn (not_occursIn_of_enclosed rfl (fun _ => rfl) accessKey_enclosed)
  · exact hfree (by decide) fun _ =>
      hitCount_of_not_occursIn (not_occursIn_of_enclosed rfl (fun _ => rfl) forgeToken_enclosed)
  · exact hfree (by decide) fun _ => hitCount_opaqueTokenRule opaqueTokenRule_free

theorem stableOn_iff_basic : assignmentRule ∈ builtinContentRules ∧
    (assignmentRule.StableOn "token=Basic hunter2".toList ↔ (assignmentRule.name = "ASSIGNMENT" →
      ∀ scheme, KeepsScheme "token=Basic hunter2".toList scheme → 'ſ' ∉ scheme)) := by
  have hmem : assignmentRule ∈ builtinContentRules := by simp [builtinContentRules]
  exact ⟨hmem, stableOn_iff _ hmem _⟩

/-- The word of a scheme that the rule has kept in front of a hidden value is hidden in its turn. -/
theorem assignmentRule_not_stable :
    assignmentRule.apply "token=baſic hunter2".toList = "token=baſic [REDACTED]".toList ∧
      assignmentRule.apply "token=baſic [REDACTED]".toList = "token=[REDACTED] [REDACTED]".toList ∧
      ¬assignmentRule.StableOn "token=baſic hunter2".toList := by
  decide +kernel

end Periscope.Redaction
