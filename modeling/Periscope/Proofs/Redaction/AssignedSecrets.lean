import Periscope.Proofs.Redaction.Idempotence

/-!
# Secrets assigned to a word

A value assigned to a secret word is hidden as a whole, unless it holds a URL with a password: the rule for URLs
goes first and puts a marker into the value, and the rule for assigned values hides what stands before its bracket.
Main result: `assigned_hidden_iff`; `assigned_not_hidden` has a text of which something is left.
-/

namespace Periscope.Redaction

open Pattern

variable {text w u v name value : List Char} {c : Char} {rule : ContentRule} {as as₁ as₂ : List Atom}

/-! ## What a rule keeps -/

theorem exists_atom (h : textOf as = u ++ c :: v) :
    ∃ as₁ a as₂ p q, as = as₁ ++ a :: as₂ ∧ a.text = p ++ c :: q ∧ u = textOf as₁ ++ p := by
  induction as generalizing u with
  | nil => simp at h
  | cons a as ih =>
    have h : a.text ++ textOf as = u ++ c :: v := h
    -- It lies behind the first atom or in it.
    rcases List.append_eq_append_iff.1 h with ⟨e, rfl, hrest⟩ | ⟨e, htext, hrest⟩
    · obtain ⟨as₁, b, as₂, p, q, rfl, hb, rfl⟩ := ih hrest
      exact ⟨a :: as₁, b, as₂, p, q, rfl, hb, (List.append_assoc ..).symm⟩
    · cases e with
      | nil =>
        obtain ⟨as₁, b, as₂, p, q, rfl, hb, hu⟩ := ih (u := []) (by simpa using hrest.symm)
        refine ⟨a :: as₁, b, as₂, p, q, rfl, hb, ?_⟩
        obtain ⟨hnil, rfl⟩ := List.append_eq_nil_iff.1 hu.symm
        rw [List.append_nil] at htext
        rw [List.append_nil, ← htext, show textOf (a :: as₁) = a.text ++ textOf as₁ from rfl, hnil, List.append_nil]
      | cons d e =>
        obtain ⟨rfl, -⟩ := List.cons.inj hrest
        exact ⟨[], a, as, u, e, rfl, htext, rfl⟩

/-- A character that stands in no hidden stretch is shown. -/
theorem mem_apply (hidden : ∀ as₁ secret as₂, rule.atoms text = as₁ ++ .hidden secret :: as₂ → c ∉ secret)
    (hc : c ∈ text) : c ∈ rule.apply text := by
  rw [← rule.textOf_atoms text, textOf, List.mem_flatMap] at hc
  rw [← rule.shownOf_atoms, shownOf, List.mem_flatMap]
  obtain ⟨a, ha, hca⟩ := hc
  cases a with
  | kept d => exact ⟨_, ha, hca⟩
  | hidden secret =>
    obtain ⟨as₁, as₂, has⟩ := List.append_of_mem ha
    exact absurd hca (hidden as₁ secret as₂ has)

theorem mem_apply_of_whole (hextent : rule.extent = .wholeMatch)
    (hmatch : ∀ {prev w next}, rule.pattern.Accepts prev w next → c ∉ w) (hc : c ∈ text) : c ∈ rule.apply text := by
  refine mem_apply (fun as₁ secret as₂ has => ?_) hc
  obtain ⟨hit, rfl, hit_eq, -⟩ := ContentRule.hidden_of_whole hextent has
  obtain ⟨stop, -, -, -, h⟩ := matchAt_eq_some hit_eq
  exact hmatch h

/-- No rule behind the one for assigned values hides an at sign. -/
theorem at_mem_later (h : '@' ∈ text) : '@' ∈ opaqueTokenRule.apply (forgeTokenRule.apply (accessKeyRule.apply
    (signedTokenRule.apply (webTokenRule.apply (bearerTokenRule.apply text))))) := by
  refine mem_apply_of_whole rfl (fun h => (accepts_opaqueRun.1 h).2.not_mem rfl) ?_
  refine mem_apply_of_whole rfl (fun h => ?_) ?_
  · obtain ⟨⟨kind, run, rfl, hkind, -, hrun⟩, -⟩ := accepts_forgeToken.1 h
    have hkind : '@' ≠ kind := by
      rintro rfl
      exact absurd hkind (by decide)
    simp [hkind, hrun.not_mem (x := '@') rfl]
  refine mem_apply_of_whole rfl (fun h => (accepts_accessKey.1 h).1.over.not_mem rfl) ?_
  refine mem_apply_of_whole rfl (fun h => ?_) ?_
  · obtain ⟨⟨a, b, c, rfl, ⟨-, ha⟩, ⟨-, hb⟩, -, hc⟩, -⟩ := accepts_signedToken.1 h
    exact (over_parts ha hb hc).not_mem rfl
  refine mem_apply_of_whole rfl (fun h => ?_) ?_
  · obtain ⟨a, b, c, rfl, ⟨-, ha⟩, ⟨-, hb⟩, -, hc⟩ := accepts_webToken.1 h
    simpa using (over_parts ha hb hc).not_mem (x := '@') rfl
  refine mem_apply (fun as₁ secret as₂ has => ?_) h
  obtain ⟨as₀, _, _, as₃, rfl, rfl, htile⟩ := ContentRule.tile_of_atoms has
  obtain ⟨hit, front, back, rfl, rfl, hmatch, haims, -⟩ := htile.hidden_inv
  obtain ⟨front', secret', haims', -, ⟨token, pad, rfl, ⟨-, htoken⟩, hpad⟩, -⟩ := bearerTokenRule_aims hmatch rfl
  obtain ⟨rfl, rfl, rfl⟩ := haims.unique haims'
  have hchar : bearerChar.contains '@' = false := by decide
  simp [htoken.not_mem hchar, hpad.not_mem (x := '@') rfl]

/-- The rule for assigned values keeps an at sign behind a bracket: a value has no bracket and stands behind none. -/
theorem at_mem_assignment (h : text = u ++ ']' :: '@' :: v) : '@' ∈ assignmentRule.apply text := by
  have htext : textOf (assignmentRule.atoms text) = (u ++ [']']) ++ '@' :: v := by
    rw [ContentRule.textOf_atoms, h]
    simp
  obtain ⟨as₁, a, as₂, p, q, has, ha, hfront⟩ := exists_atom htext
  cases a with
  | kept d =>
    have hd : '@' ∈ [d] := by
      rw [show [d] = p ++ '@' :: q from ha]
      simp
    rw [← ContentRule.shownOf_atoms, has]
    simpa using .inr (.inl (List.mem_singleton.1 hd))
  | hidden secret =>
    obtain ⟨as₀, site, front, rfl, hassigned, -⟩ := assigned_of_hidden has
    have hbracket := congrArg List.getLast? hfront
    rw [List.getLast?_concat] at hbracket
    rcases List.eq_nil_or_concat p with rfl | ⟨p, x, rfl⟩
    · obtain ⟨x, hx, hsep⟩ := hassigned.ends.append_left (u := textOf as₀)
      obtain rfl : ']' = x := by simpa [hx] using hbracket
      exact absurd hsep (by decide)
    · obtain rfl : ']' = x := by simpa using hbracket
      have hmem : ']' ∈ secret := by
        rw [show secret = p.concat ']' ++ '@' :: q from ha]
        simp
      exact absurd hmem (hassigned.over_value.not_mem rfl)

/-- The rule for URLs leaves an at sign behind a marker where there is a URL with a password. -/
theorem at_mem_urlCredentials (hopen : '[' ∉ text) (h : urlCredentials.OccursIn text) :
    ∃ u v, urlCredentialsRule.apply text = u ++ ']' :: '@' :: v := by
  have hsome : urlCredentialsRule.hitCount text ≠ 0 := by
    -- A URL that is kept has a marker for its password.
    intro hzero
    obtain ⟨a, _, b, htext, hw⟩ := occursIn_iff.1 h
    obtain ⟨origin, user, password, rfl, hlogin⟩ := accepts_urlCredentials.1 hw
    have hkept := ContentRule.atoms_of_hitCount hzero
    have has : urlCredentialsRule.atoms text =
        a.map .kept ++ ((origin ++ (user ++ ':' :: (password ++ ['@']))).map .kept ++ b.map .kept) := by
      rw [hkept, htext, List.map_append, List.map_append]
    have hmarker := hlogin.eq_marker_of_kept has
    exact hopen (by simp [htext, hmarker, marker])
  obtain ⟨as₁, secret, as₂, has⟩ : ∃ as₁ secret as₂, urlCredentialsRule.atoms text = as₁ ++ .hidden secret :: as₂ :=
    Classical.byContradiction fun hnone =>
      hsome (ContentRule.hitCount_eq_zero fun as₁ secret as₂ has => hnone ⟨as₁, secret, as₂, has⟩)
  obtain ⟨_, _, _, as₃, -, rfl, -⟩ := login_of_hidden has
  refine ⟨shownOf as₁ ++ "[REDACTED".toList, shownOf as₃, ?_⟩
  rw [← ContentRule.shownOf_atoms, has]
  simp [marker]

/-! ## A value as a whole -/

/-- A match that is the whole text is the only step of the search. -/
theorem atoms_of_matchAt {hit : Hit} {front secret back : List Char}
    (hmatch : rule.pattern.matchAt none hit.text = some hit) (haims : rule.Aims hit front secret back)
    (hne : hit.text ≠ []) (hmarker : secret ≠ marker.toList) (haccepts : rule.accepts secret) :
    rule.atoms hit.text = front.map .kept ++ .hidden secret :: back.map .kept := by
  have hsegments : rule.pattern.segmentsFrom none 0 false (hit.text ++ []) =
      .hit hit :: rule.pattern.segmentsFrom (hit.text.getLast?.or none) 0 true [] :=
    segmentsFrom_hit (by rwa [List.append_nil]) hne
  rw [List.append_nil, segmentsFrom_nil (by simp), ← segments_eq] at hsegments
  rw [ContentRule.atoms_eq, hsegments, List.flatMap_singleton]
  rcases ContentRule.segmentAtoms_hit hmatch with ⟨-, hveto⟩ | ⟨front', secret', back', haims', -, -, hatoms⟩
  · rcases hveto _ _ _ haims with h | h
    · exact absurd h hmarker
    · simp [haccepts] at h
  · obtain ⟨rfl, rfl, rfl⟩ := haims.unique haims'
    exact hatoms

theorem isSite_word {word : String} (h : word ∈ secretWords) : IsSite (word.toList ++ ['=']) := by
  have hword := isSecretWord_self h
  have hsep : IsSeparator ['='] :=
    ⟨[], [], '=', [], [], rfl, .inl rfl, over_nil, contains_signMark.2 (.inl rfl), over_nil, .inl rfl⟩
  exact ⟨word.toList, ['='], rfl, ⟨hword.over, _, hword, List.infix_rfl⟩, hsep⟩

theorem assigned_word {word : String} (h : word ∈ secretWords) (hne : value ≠ [])
    (hover : Over (.compl valueEnd) value) : Assigned none [] (word.toList ++ ['=']) [] value := by
  have hedge : ∀ word ∈ secretWords, IsWordAt (word.toList ++ ['=']).head? := by decide
  refine ⟨isSite_word h, by simpa using hedge word h, .inl rfl, hne, hover, .nil, ?_⟩
  -- There are no blanks in the value, so no scheme is passed over.
  rintro - _ after heq ⟨scheme, blanks, rfl, -, hbne, hblanks⟩
  have hmem : blanks.head hbne ∈ value := by
    rw [← List.append_nil value, heq]
    simp
  have hblank := not_blank_of_value (hover _ hmem)
  simp [hblanks _ (List.head_mem hbne)] at hblank

/-- The rule hides a value that is followed by nothing as a whole. -/
theorem assignmentRule_apply_word {word : String} (h : word ∈ secretWords) (hne : value ≠ [])
    (hover : Over (.compl valueEnd) value) (haccepts : isNotAuthScheme value) :
    assignmentRule.apply (word.toList ++ '=' :: value) = word.toList ++ '=' :: marker.toList := by
  have hassigned := assigned_word h hne hover
  have htext : word.toList ++ '=' :: value = (word.toList ++ ['=']) ++ ([] ++ value) := by simp
  obtain ⟨hit, hmatch⟩ := Option.isSome_iff_exists.1
    (matchAt_isSome_iff.2 ⟨word.toList ++ '=' :: value, [], (List.append_nil _).symm, htext ▸ hassigned.accepts⟩)
  obtain ⟨stop, -, hrest, -, -⟩ := matchAt_eq_some hmatch
  obtain ⟨site, front, value', h', haims⟩ := assignment_hit hmatch hrest
  -- The match begins with the text, so that its site is this one and the rest is read in one way.
  have hread : [] ++ ((word.toList ++ ['=']) ++ ([] ++ (value ++ []))) = site ++ (front ++ (value' ++ stop.rest)) := by
    rw [haims.text] at hrest
    simpa using hrest
  obtain ⟨rfl, rfl, rfl, hstop⟩ : site = word.toList ++ ['='] ∧ front = [] ∧ value' = value ∧ stop.rest = [] := by
    rcases hassigned.isSite.cases h'.isSite hassigned.stops_padding h'.stops_padding hread with
      ⟨hsite, hbehind⟩ | ⟨e, hnil, -⟩
    · obtain ⟨rfl, rfl, hstop⟩ := hassigned.unique h' hbehind
      exact ⟨hsite, rfl, rfl, hstop.symm⟩
    · obtain ⟨x, s, rfl, -⟩ := h'.isSite.head
      cases hnil
  have hwhole : hit.text = word.toList ++ '=' :: value' := by simpa [hstop] using hrest.symm
  have hmarker : value' ≠ marker.toList := by
    rintro rfl
    exact absurd (hover '[' (by decide)) (by decide)
  have hatoms := atoms_of_matchAt (hwhole ▸ hmatch) haims (by simp [hwhole]) hmarker haccepts
  rw [hwhole] at hatoms
  rw [← ContentRule.shownOf_atoms, hatoms]
  simp

/-! ## All rules -/

theorem keyFree_of_no_space (h : ' ' ∉ text) : KeyFree text := by
  rintro a _ b rfl ⟨label, rfl, -⟩
  exact h (by simp)

theorem urlCredentials_behind_word (hname : ':' ∉ name) :
    urlCredentials.OccursIn (name ++ '=' :: value) ↔ urlCredentials.OccursIn value := by
  simp only [occursIn_iff, accepts_urlCredentials]
  constructor
  · rintro ⟨a, _, b, htext, origin, user, password, rfl, hlogin⟩
    have horigin : '=' ∉ origin := by
      obtain ⟨x, scheme, rfl, hx, hscheme⟩ := hlogin.isOrigin
      have hletter : '=' ≠ x := by
        rintro rfl
        exact absurd hx (by decide)
      simp [hletter, hscheme.not_mem (x := '=') rfl]
    have hcolon : ':' ∈ origin := by
      obtain ⟨x, scheme, rfl, -⟩ := hlogin.isOrigin
      simp
    -- The URL begins behind the sign: its origin has a colon, which the name has not, and no equals sign.
    have hsplit : name ++ '=' :: value = a ++ (origin ++ (user ++ ':' :: (password ++ '@' :: b))) := by
      simpa using htext
    rcases List.append_eq_append_iff.1 hsplit with ⟨e, rfl, hbehind⟩ | ⟨e, rfl, hbehind⟩
    · cases e with
      | nil =>
        obtain ⟨x, origin, rfl, -⟩ := hlogin.isOrigin.head
        obtain ⟨rfl, -⟩ := List.cons.inj hbehind
        exact absurd List.mem_cons_self horigin
      | cons d e =>
        obtain ⟨-, hvalue⟩ := List.cons.inj hbehind
        exact ⟨e, _, b, by simpa using hvalue, origin, user, password, rfl, hlogin⟩
    · rcases List.append_eq_append_iff.1 hbehind with ⟨d, rfl, -⟩ | ⟨d, rfl, hrest⟩
      · exact absurd (List.mem_append_right a (List.mem_append_left d hcolon)) hname
      · cases d with
        | nil => exact absurd (by simpa using List.mem_append_right a hcolon) hname
        | cons x d =>
          obtain ⟨rfl, -⟩ := List.cons.inj hrest
          exact absurd (List.mem_append_right e List.mem_cons_self) horigin
  · rintro ⟨a, w, b, rfl, hw⟩
    exact ⟨name ++ '=' :: a, w, b, by simp, hw⟩

theorem later_rules_word : ∀ word ∈ secretWords, opaqueTokenRule.apply (forgeTokenRule.apply (accessKeyRule.apply
    (signedTokenRule.apply (webTokenRule.apply (bearerTokenRule.apply (word.toList ++ '=' :: marker.toList)))))) =
      word.toList ++ '=' :: marker.toList := by
  decide +kernel

/-- A value that is assigned to a secret word is hidden as a whole exactly when it holds no URL with a password. -/
theorem assigned_hidden_iff {k s : String} (hk : k ∈ secretWords) (hne : s ≠ "")
    (hvalue : Over (.compl valueEnd) s.toList) (hscheme : isNotAuthScheme s.toList) :
    Redactor.builtin.redactText (k ++ "=" ++ s) = k ++ "=" ++ marker ↔ ¬urlCredentials.OccursIn s.toList := by
  have hletters : ∀ c, c ∉ wordLetters → c ∉ k.toList :=
    fun c hc hck => hc (mem_wordLetters k (.tail _ (.tail _ hk)) c hck)
  have hforeign : ∀ c, c ∉ wordLetters → c ≠ '=' → (CharSet.compl valueEnd).contains c = false →
      c ∉ k.toList ++ '=' :: s.toList := by
    intro c hc heq hend
    simp [hletters c hc, heq, hvalue.not_mem hend]
  have hkey : privateKeyRule.apply (k.toList ++ '=' :: s.toList) = k.toList ++ '=' :: s.toList :=
    ContentRule.apply_of_hitCount <| hitCount_of_not_occursIn
      (keyFree_of_no_space (hforeign ' ' (by decide) (by decide) (by decide))).not_occursIn
  rw [← String.toList_inj, Redactor.redactText, String.toList_ofList, redactChars_builtin]
  simp only [String.toList_append, show "=".toList = ['='] from rfl, List.append_assoc, List.singleton_append]
  rw [hkey, ← urlCredentials_behind_word (hletters ':' (by decide))]
  constructor
  · -- The at sign of the URL is shown to the end, behind the marker of its password.
    intro hall hurl
    obtain ⟨u, v, huv⟩ := at_mem_urlCredentials (hforeign '[' (by decide) (by decide) (by decide)) hurl
    have hat := at_mem_later (at_mem_assignment huv)
    rw [hall] at hat
    have hmarker : '@' ∉ '=' :: marker.toList := by decide
    exact (List.mem_append.1 hat).elim (hletters '@' (by decide)) hmarker
  · intro hurl
    have hne : s.toList ≠ [] := fun hnil => hne (String.toList_eq_nil_iff.1 hnil)
    have hurls : urlCredentialsRule.apply (k.toList ++ '=' :: s.toList) = k.toList ++ '=' :: s.toList :=
      ContentRule.apply_of_hitCount (hitCount_of_not_occursIn hurl)
    rw [hurls, assignmentRule_apply_word hk hne hvalue hscheme]
    exact later_rules_word k hk

theorem assigned_hidden_iff_token :
    ("token" ∈ secretWords ∧ "http://user@host" ≠ "" ∧ Over (.compl valueEnd) "http://user@host".toList ∧
      isNotAuthScheme "http://user@host".toList) ∧
    (Redactor.builtin.redactText ("token" ++ "=" ++ "http://user@host") = "token" ++ "=" ++ marker ↔
      ¬urlCredentials.OccursIn "http://user@host".toList) := by
  have hk : "token" ∈ secretWords := by decide
  have hvalue : Over (.compl valueEnd) "http://user@host".toList := by decide
  have hscheme : isNotAuthScheme "http://user@host".toList := by decide
  exact ⟨⟨hk, by decide, hvalue, hscheme⟩, assigned_hidden_iff hk (by decide) hvalue hscheme⟩

/-- A password with a URL in it is left in clear behind the password of the URL. -/
theorem assigned_not_hidden :
    ("password" ∈ secretWords ∧ "a://u:p@hunter2" ≠ "" ∧ Over (.compl valueEnd) "a://u:p@hunter2".toList ∧
      isNotAuthScheme "a://u:p@hunter2".toList) ∧
    Redactor.builtin.redactText ("password" ++ "=" ++ "a://u:p@hunter2") = "password=[REDACTED][REDACTED]@hunter2" := by
  decide +kernel

end Periscope.Redaction
