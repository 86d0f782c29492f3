import Periscope.Proofs.Redaction.Residue
import Periscope.Proofs.Redaction.Weight
import Periscope.Proofs.Redaction.Passwords
import Periscope.Proofs.Redaction.Assignments

/-!
# Redacting twice

Six of the nine built-in rules have nothing to hide in a redacted text. The other three may find a secret that
a hidden stretch has laid bare, so redaction is idempotent exactly where they do not. Main result:
`redactValue_idempotent_iff`; `redactText_not_idempotent` has a text for each of the three.
-/

namespace Periscope.Redaction

open Pattern

variable {text a b w : List Char} {rule : ContentRule}

/-! ## No built-in rule cuts a marker -/

theorem privateKeyRule_sparesMarkers : privateKeyRule.SparesMarkers := by
  intro prev rest hit front secret back hmatch haims _
  obtain ⟨rfl, rfl, rfl⟩ := haims.whole rfl
  obtain ⟨stop, -, htext, -, h⟩ := matchAt_eq_some hmatch
  rw [List.append_cancel_left htext]
  obtain ⟨line, body, close, hhit, ⟨label, rfl, -⟩, hclose⟩ := accepts_privateKey.1 h
  rw [hhit]
  refine ⟨by simp, fun before => ?_, ?_⟩
  · exact Apart.of_head (c := '-') (by decide)
  · rcases hclose with ⟨label, rfl, -⟩ | ⟨rfl, hnone⟩
    · refine Apart.of_last (Ends.append_left (Ends.append_left ?_))
      refine Ends.append_left (Ends.append_left ⟨'-', by decide, by decide⟩)
    · rw [List.head?_eq_none_iff.1 hnone]
      exact Apart.nil

theorem urlCredentialsRule_sparesMarkers : urlCredentialsRule.SparesMarkers := by
  intro prev rest hit front secret back hmatch haims _
  obtain ⟨origin, user, password, hlogin, haims'⟩ := urlCredentials_hit hmatch
  obtain ⟨rfl, rfl, rfl⟩ := haims.unique haims'
  have hends : Ends (· ∉ marker.toList) [':'] := ⟨':', rfl, by decide⟩
  exact ⟨hlogin.password_ne_nil, fun before => .of_last hends.append_left.append_left.append_left,
    .of_head (by decide)⟩

theorem not_mem_marker_of_separatorChar {c : Char} (h : separatorChar.contains c) : c ∉ marker.toList := by
  have hall : marker.toList.all fun c => !separatorChar.contains c := by decide
  intro hmem
  have hc := List.all_eq_true.1 hall c hmem
  simp [h] at hc

theorem assignmentRule_sparesMarkers : assignmentRule.SparesMarkers := by
  intro prev rest hit front secret back hmatch haims _
  obtain ⟨site, front', value, h, haims'⟩ := assignment_hit hmatch rfl
  obtain ⟨rfl, rfl, rfl⟩ := haims.unique haims'
  obtain ⟨c, hlast, hc⟩ := h.ends
  have hends : Ends (· ∉ marker.toList) (site ++ front') :=
    ⟨c, hlast, not_mem_marker_of_separatorChar hc⟩
  exact ⟨h.ne_nil, fun before => .of_last hends.append_left, .of_not_open (h.over_value.not_mem rfl)⟩

theorem bearerTokenRule_sparesMarkers : bearerTokenRule.SparesMarkers := by
  intro prev rest hit front secret back hmatch haims _
  obtain ⟨front', secret', haims', hfront, hsecret, -⟩ := bearerTokenRule_aims hmatch rfl
  obtain ⟨rfl, rfl, rfl⟩ := haims.unique haims'
  obtain ⟨x, v, hx, -⟩ := hsecret.head
  obtain ⟨scheme, blanks, rfl, -, hne, hblanks⟩ := hfront
  have hends : Ends (· ∉ marker.toList) blanks := Ends.of_all hne fun c hc =>
    not_mem_marker_of_separatorChar (contains_separatorChar.2 (.inr (.inl (hblanks c hc))))
  exact ⟨by simp [hx], fun before => .of_last hends.append_left.append_left, .of_not_open hsecret.not_mem_bracket.1⟩

/-- A rule that hides the whole match, which has nothing to do with a marker, spares all markers. -/
theorem sparesMarkers_of_whole (hextent : rule.extent = .wholeMatch)
    (hunmarked : ∀ {prev w next}, rule.pattern.Accepts prev w next → rule.accepts w → Unmarked w) :
    rule.SparesMarkers := by
  intro prev rest hit front secret back hmatch haims haccepts
  obtain ⟨rfl, rfl, rfl⟩ := haims.whole hextent
  obtain ⟨stop, -, -, -, h⟩ := matchAt_eq_some hmatch
  have h := hunmarked h haccepts
  exact ⟨h.ne_nil, fun before => .of_unmarked h, .of_not_open h.noOpen⟩

theorem sparesMarkers_builtin : ∀ rule ∈ builtinContentRules, rule.SparesMarkers := by
  simp only [builtinContentRules, List.forall_mem_cons]
  refine ⟨privateKeyRule_sparesMarkers, urlCredentialsRule_sparesMarkers, assignmentRule_sparesMarkers,
    bearerTokenRule_sparesMarkers, ?_, ?_, ?_, ?_, ?_, List.forall_mem_nil _⟩
  · exact sparesMarkers_of_whole rfl fun h _ => (accepts_webToken.1 h).unmarked
  · exact sparesMarkers_of_whole rfl fun h _ => (accepts_signedToken.1 h).1.unmarked
  · exact sparesMarkers_of_whole rfl fun h _ => (accepts_accessKey.1 h).1.unmarked
  · exact sparesMarkers_of_whole rfl fun h _ => (accepts_forgeToken.1 h).1.unmarked
  · refine sparesMarkers_of_whole rfl fun h haccepts => ?_
    obtain ⟨x, hx, hforeign⟩ := isOpaqueCredential_foreign haccepts
    exact .of_over (accepts_opaqueRun.1 h).2 rfl rfl hx hforeign

/-! ## Bearer tokens -/

/-- A front of blanks behind a word has no room for a blank and more behind it. -/
theorem IsBearerFront.not_infix (ha : IsBearerFront a) (hb : IsBearerSecret b) (hw : IsBearerFront w) :
    ¬a ++ b <:+: w := by
  rintro ⟨u, v, h⟩
  obtain ⟨scheme, blanks, rfl, -, hne, hblanks⟩ := ha
  obtain ⟨scheme', blanks', rfl, hscheme', -, hblanks'⟩ := hw
  obtain ⟨x, b, rfl, hx⟩ := hb.head
  have hsplit : (u ++ (scheme ++ blanks)) ++ (x :: (b ++ v)) = scheme' ++ blanks' := by simpa using h
  rcases List.append_eq_append_iff.1 hsplit with ⟨e, rfl, -⟩ | ⟨e, -, rfl⟩
  · have hmem : blanks.head hne ∈ u ++ (scheme ++ blanks) ++ e := by simp
    have hblank : Text.isBlank (blanks.head hne) := hblanks _ (List.head_mem hne)
    simp [(hscheme'.not_blank hmem).1] at hblank
  · have hblank : Text.isBlank x := hblanks' x (by simp)
    simp [hx] at hblank

/-- Behind a fence a bearer token in what is shown is one in the text. -/
theorem FenceAfter.locate_bearer {as : List Atom} (h : FenceAfter as) (hshown : shownOf as = a ++ (w ++ b))
    (hw : bearerToken.Accepts a.getLast? w b.head?) : ∃ as₁ as₂, as = as₁ ++ (w.map .kept ++ as₂) ∧
      ∀ next, bearerToken.Accepts (textOf as₁).getLast? w next := by
  obtain ⟨front, secret, rfl, ⟨hfront, hprev⟩, hsecret⟩ := accepts_bearerToken.1 hw
  obtain ⟨as₁, as₂, has, rfl, rfl⟩ := locate (hfront.unmarked_append hsecret) hshown
  obtain ⟨x, v, hx, hxa⟩ : ∃ x v, front = x :: v ∧ alphanumeric.contains x := by
    obtain ⟨_, blanks, rfl, hscheme, -⟩ := hfront
    obtain ⟨x, v, rfl, hx⟩ := hscheme.head
    exact ⟨x, v ++ blanks, rfl, hx⟩
  have hhead : as = as₁ ++ .kept x :: ((v ++ secret).map .kept ++ as₂) := by rw [has, hx]; rfl
  exact ⟨as₁, as₂, has, fun next =>
    accepts_bearerToken.2 ⟨front, secret, rfl, ⟨hfront, h.not_isWordAt hhead hxa hprev⟩, hsecret⟩⟩

theorem bearerToken_of_apply (hafter : FenceAfter (rule.atoms text))
    (h : bearerToken.OccursIn (rule.apply text)) : bearerToken.OccursIn text := by
  obtain ⟨a, w, b, htext, hw⟩ := occursIn_iff.1 h
  obtain ⟨as₁, as₂, has, hw⟩ := hafter.locate_bearer ((rule.shownOf_atoms text).trans htext) hw
  exact occursIn_iff.2 ⟨textOf as₁, w, textOf as₂, ContentRule.text_of_kept has, hw _⟩

/-- The rule for bearer tokens leaves none. -/
theorem bearerTokenRule_free : ¬bearerToken.OccursIn (bearerTokenRule.apply text) := by
  intro h
  obtain ⟨a, w, b, htext, hw⟩ := occursIn_iff.1 h
  obtain ⟨as₁, as₂, has, hw⟩ :=
    bearerTokenRule_fenceAfter.locate_bearer ((bearerTokenRule.shownOf_atoms text).trans htext) hw
  obtain ⟨front, secret, rfl, ⟨hfront, -⟩, hsecret⟩ := accepts_bearerToken.1 (hw none)
  obtain ⟨x, w, hx⟩ := List.exists_cons_of_ne_nil (hfront.unmarked_append hsecret).ne_nil
  have hhead : bearerTokenRule.atoms text = as₁ ++ .kept x :: (w.map .kept ++ as₂) := by rw [has, hx]; rfl
  obtain ⟨as₀, _, _, as₃, rfl, htail, htile⟩ := ContentRule.tile_of_atoms hhead
  rcases htile.kept_inv with ⟨rfl, rfl, hnone⟩ | ⟨hit, u, v, rfl, rfl, -, hmatch, hveto⟩ |
    ⟨hit, u, v, secret', back, rfl, rfl, hmatch, haims⟩ | ⟨hit, _, _, u, v, rfl, rfl, hmatch, haims⟩
  · obtain rfl : w.map .kept ++ as₂ = as₃ := htail
    rw [textOf_append, textOf_map_kept, ← List.cons_append, ← hx] at hnone
    rw [List.append_nil] at hw
    refine not_accepts_of_matchAt hnone (fun haccepts => ?_) (hw _)
    obtain ⟨front', secret', rfl, ⟨hfront', -⟩, hsecret'⟩ := accepts_bearerToken.1 haccepts
    exact (hfront'.unmarked_append hsecret').ne_nil
  · obtain ⟨front', secret', haims, -, hsecret', -⟩ := bearerTokenRule_aims hmatch rfl
    rcases hveto _ _ _ haims with rfl | hveto
    · exact hsecret'.not_mem_bracket.1 (by decide)
    · cases hveto
  · -- The text up to the hidden token has a token of its own.
    obtain ⟨front', _, haims', hfront', -⟩ := bearerTokenRule_aims hmatch rfl
    obtain ⟨rfl, -, -⟩ := haims.unique haims'
    obtain ⟨e, rfl⟩ := map_kept_prefix (htail.trans (List.append_assoc ..))
    exact hfront.not_infix hsecret hfront' ⟨u, e, by simp [hx]⟩
  · obtain ⟨_, _, haims', -⟩ := bearerTokenRule_aims hmatch rfl
    obtain ⟨-, -, h⟩ := haims.unique haims'
    simp at h

/-! ## What is left to hide -/

theorem hitCount_of_not_occursIn (h : ¬rule.pattern.OccursIn text) : rule.hitCount text = 0 := by
  refine ContentRule.hitCount_eq_zero fun as₁ secret as₂ has => h ?_
  have htext := ContentRule.text_of_hidden has
  obtain ⟨as₀, _, _, as₃, rfl, rfl, htile⟩ := ContentRule.tile_of_atoms has
  obtain ⟨hit, front, back, rfl, rfl, hmatch, haims, -⟩ := htile.hidden_inv
  exact ⟨textOf as₀, hit.text ++ textOf as₃, by rw [htext, haims.text]; simp, by simp [hmatch]⟩

theorem hitCount_opaqueTokenRule (h : OpaqueFree text) : opaqueTokenRule.hitCount text = 0 := by
  refine ContentRule.hitCount_eq_zero fun as₁ secret as₂ has => ?_
  obtain ⟨hit, rfl, hmatch, haccepts⟩ := ContentRule.hidden_of_whole rfl has
  obtain ⟨stop, -, -, -, hrun⟩ := matchAt_eq_some hmatch
  obtain ⟨hlen, hover⟩ := accepts_opaqueRun.1 hrun
  have hinfix : hit.text <:+: text :=
    ⟨textOf as₁, textOf as₂, by rw [ContentRule.text_of_hidden has, List.append_assoc]⟩
  have haccepts : isOpaqueCredential hit.text := haccepts
  simp [h _ hinfix hlen hover] at haccepts

/-- No bearer token is left after the last rule. -/
theorem redactChars_bearerFree (text : List Char) : ¬bearerToken.OccursIn (Redactor.builtin.redactChars text) := by
  rw [redactChars_builtin]
  intro h
  have h := bearerToken_of_apply opaqueTokenRule_fenceAfter h
  have h := bearerToken_of_apply forgeTokenRule_fences.1 h
  have h := bearerToken_of_apply accessKeyRule_fences.1 h
  have h := bearerToken_of_apply signedTokenRule_fenceAfter h
  have h := bearerToken_of_apply webTokenRule_fenceAfter h
  exact bearerTokenRule_free h

/-- Redaction leaves a text as it is exactly when no rule hides anything in it. -/
theorem redactChars_eq_self_iff : Redactor.builtin.redactChars text = text ↔
    ∀ rule ∈ builtinContentRules, rule.hitCount text = 0 := by
  rw [Redactor.redactChars, contentRules_builtin]
  exact ContentRule.foldl_apply_eq_self_iff sparesMarkers_builtin

theorem redactChars_redactChars_iff (text : List Char) :
    Redactor.builtin.redactChars (Redactor.builtin.redactChars text) = Redactor.builtin.redactChars text ↔
      urlCredentialsRule.hitCount (Redactor.builtin.redactChars text) = 0 ∧
      assignmentRule.hitCount (Redactor.builtin.redactChars text) = 0 ∧
      signedTokenRule.hitCount (Redactor.builtin.redactChars text) = 0 := by
  have hfree := redactChars_credentialFree text
  have hbearer := redactChars_bearerFree text
  rw [redactChars_eq_self_iff]
  generalize Redactor.builtin.redactChars text = out at hfree hbearer ⊢
  simp only [builtinContentRules, List.forall_mem_cons, List.not_mem_nil, false_implies, implies_true, and_true]
  have h₁ : privateKeyRule.hitCount out = 0 := hitCount_of_not_occursIn hfree.privateKey
  have h₄ : bearerTokenRule.hitCount out = 0 := hitCount_of_not_occursIn hbearer
  have h₅ : webTokenRule.hitCount out = 0 := hitCount_of_not_occursIn hfree.webToken
  have h₇ : accessKeyRule.hitCount out = 0 := hitCount_of_not_occursIn hfree.accessKey
  have h₈ : forgeTokenRule.hitCount out = 0 := hitCount_of_not_occursIn hfree.forgeToken
  have h₉ : opaqueTokenRule.hitCount out = 0 := hitCount_opaqueTokenRule hfree.opaqueRun
  simp only [h₁, h₄, h₅, h₇, h₈, h₉, true_and, and_true]

/-- Redaction is idempotent on a value exactly when three of the rules have nothing left to hide in its redacted
strings: the other six never have. -/
theorem redactValue_idempotent_iff (v : Json) :
    Redactor.builtin.redactValue (Redactor.builtin.redactValue v) = Redactor.builtin.redactValue v ↔
      ∀ s ∈ (Redactor.builtin.redactValue v).leaves, urlCredentialsRule.hitCount s.toList = 0 ∧
        assignmentRule.hitCount s.toList = 0 ∧ signedTokenRule.hitCount s.toList = 0 := by
  rw [Redactor.redactValue_redactValue_eq_iff redactText_marker]
  refine forall_congr' fun s => imp_congr_right fun hs => ?_
  obtain ⟨text, rfl⟩ := Redactor.redactText_of_mem_leaves redactText_marker v hs
  rw [Redactor.redactText, Redactor.redactText, String.ofList_inj, String.toList_ofList]
  exact redactChars_redactChars_iff text.toList

/-- A password behind an assigned value that is hidden only now, a value behind a word that is a scheme only when
letter case is folded beyond ASCII, and a token whose first part begins only behind a marker. -/
theorem redactText_not_idempotent :
    (Redactor.builtin.redactText (Redactor.builtin.redactText "a://token=x/y,z:c@d") ≠
      Redactor.builtin.redactText "a://token=x/y,z:c@d") ∧
    (Redactor.builtin.redactText (Redactor.builtin.redactText "token=baſic hunter2") ≠
      Redactor.builtin.redactText "token=baſic hunter2") ∧
    (Redactor.builtin.redactText (Redactor.builtin.redactText
        "éa8F3kLm92QzX7pR4tV6wY1nB5cD0eG2h_aaaaaaaaaaaaaaa.aaaaaaaaaaaaaaaa.aaaaaaaaaaaaaaaa") ≠
      Redactor.builtin.redactText
        "éa8F3kLm92QzX7pR4tV6wY1nB5cD0eG2h_aaaaaaaaaaaaaaa.aaaaaaaaaaaaaaaa.aaaaaaaaaaaaaaaa") := by
  decide +kernel

end Periscope.Redaction
