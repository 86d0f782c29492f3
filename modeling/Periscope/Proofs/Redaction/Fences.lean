import Periscope.Proofs.Redaction.Trace
import Periscope.Proofs.Redaction.Words

/-!
# Where a rule cuts

A rule that hides a stretch puts brackets where other characters have been, and a word that had no edge there
now has one. The built-in rules only cut where no word of letters and digits goes on, so an occurrence of a
pattern in the result is one in the text.
-/

namespace Periscope.Redaction

open Pattern

/-- No letter or digit follows a hidden stretch that ends inside a word. -/
def FenceAfter (as : List Atom) : Prop :=
  ∀ as₁ secret c as₂, as = as₁ ++ .hidden secret :: .kept c :: as₂ →
    secret ≠ [] ∧ (alphanumeric.contains c → ¬IsWordAt secret.getLast?)

/-- No letter or digit stands before a hidden stretch. -/
def FenceBefore (as : List Atom) : Prop :=
  ∀ as₁ c secret as₂, as = as₁ ++ .kept c :: .hidden secret :: as₂ → ¬alphanumeric.contains c

variable {as as₁ as₂ : List Atom} {c x : Char} {a b w secret : List Char} {p : Pattern}

theorem FenceAfter.not_isWordAt (h : FenceAfter as) (has : as = as₁ ++ .kept c :: as₂)
    (hc : alphanumeric.contains c) (hshown : ¬IsWordAt (shownOf as₁).getLast?) :
    ¬IsWordAt (textOf as₁).getLast? := by
  rcases List.eq_nil_or_concat as₁ with rfl | ⟨init, last, rfl⟩
  · exact hshown
  · cases last with
    | kept d => simpa [List.getLast?_append] using hshown
    | hidden secret =>
      obtain ⟨hne, hword⟩ := h init secret c as₂ (by simpa using has)
      have hlast : (textOf (init.concat (.hidden secret))).getLast? = secret.getLast? := by
        simp [List.getLast?_append, List.getLast?_eq_some_getLast hne]
      rw [hlast]
      exact hword hc

theorem FenceBefore.not_isWordAt (h : FenceBefore as) (has : as = as₁ ++ .kept c :: as₂)
    (hc : alphanumeric.contains c) (hshown : ¬IsWordAt (shownOf as₂).head?) : ¬IsWordAt (textOf as₂).head? := by
  cases as₂ with
  | nil => exact hshown
  | cons next as₂ =>
    cases next with
    | kept d => exact hshown
    | hidden secret => exact absurd hc (h as₁ c secret as₂ has)

/-- Words that cannot be confused with a marker and that a fence can protect. -/
structure Enclosed (p : Pattern) (L : List Char → Prop) : Prop where
  accepts : ∀ {prev w next}, p.Accepts prev w next ↔ L w ∧ ¬IsWordAt prev ∧ ¬IsWordAt next
  solid : ∀ {w}, L w → Solid w
  unmarked : ∀ {w}, L w → Unmarked w

/-- Between fences an occurrence in what is shown is an occurrence in the text. -/
theorem Enclosed.locate {L : List Char → Prop} (hp : Enclosed p L) (hafter : FenceAfter as)
    (hbefore : FenceBefore as) (hshown : shownOf as = a ++ (w ++ b)) (hw : p.Accepts a.getLast? w b.head?) :
    ∃ as₁ as₂, as = as₁ ++ (w.map .kept ++ as₂) ∧ p.Accepts (textOf as₁).getLast? w (textOf as₂).head? := by
  obtain ⟨hL, ha, hb⟩ := hp.accepts.1 hw
  obtain ⟨as₁, as₂, has, rfl, rfl⟩ := Redaction.locate (hp.unmarked hL) hshown
  refine ⟨as₁, as₂, has, hp.accepts.2 ⟨hL, ?_, ?_⟩⟩
  · obtain ⟨x, hx, hxa⟩ := (hp.solid hL).first
    obtain ⟨v, rfl⟩ := List.head?_eq_some_iff.1 hx
    exact hafter.not_isWordAt has hxa ha
  · obtain ⟨x, hx, hxa⟩ := (hp.solid hL).last
    obtain ⟨u, rfl⟩ := List.getLast?_eq_some_iff.1 hx
    have has : as = (as₁ ++ u.map .kept) ++ .kept x :: as₂ := by simpa using has
    exact hbefore.not_isWordAt has hxa hb

namespace ContentRule

variable {rule : ContentRule} {text : List Char}

theorem occursIn_of_apply {L : List Char → Prop} (hp : Enclosed p L) (hafter : FenceAfter (rule.atoms text))
    (hbefore : FenceBefore (rule.atoms text)) (h : p.OccursIn (rule.apply text)) : p.OccursIn text := by
  obtain ⟨a, w, b, hshown, hw⟩ := occursIn_iff.1 h
  obtain ⟨as₁, as₂, has, hw⟩ := hp.locate hafter hbefore ((shownOf_atoms rule text).trans hshown) hw
  exact occursIn_iff.2 ⟨textOf as₁, w, textOf as₂, text_of_kept has, hw⟩

/-! ## Rules that hide the whole match -/

theorem Aims.whole {hit : Hit} {front back : List Char} (hextent : rule.extent = .wholeMatch)
    (h : rule.Aims hit front secret back) : front = [] ∧ secret = hit.text ∧ back = [] := by
  have hself : rule.Aims hit [] hit.text [] := ⟨by simp, by simp [ContentRule.target, hextent]⟩
  exact h.unique hself

/-- What such a rule hides is a match. -/
theorem hidden_of_whole (hextent : rule.extent = .wholeMatch)
    (has : rule.atoms text = as₁ ++ .hidden secret :: as₂) :
    ∃ hit, hit.text = secret ∧ rule.pattern.matchAt (textOf as₁).getLast? (secret ++ textOf as₂) = some hit ∧
      rule.accepts secret := by
  obtain ⟨as₀, _, _, as₃, rfl, rfl, htile⟩ := tile_of_atoms has
  obtain ⟨hit, front, back, rfl, rfl, hmatch, haims, -, haccepts⟩ := htile.hidden_inv
  obtain ⟨rfl, rfl, rfl⟩ := haims.whole hextent
  exact ⟨hit, rfl, by simpa using hmatch, haccepts⟩

/-- What such a rule keeps lies outside all matches or in a match that stays. -/
theorem kept_of_whole (hextent : rule.extent = .wholeMatch) (has : rule.atoms text = as₁ ++ .kept c :: as₂) :
    (∀ hit, rule.pattern.matchAt (textOf as₁).getLast? (c :: textOf as₂) = some hit → hit.text = []) ∨
    ∃ as₀ as₃ hit u v, as₁ = as₀ ++ u.map .kept ∧ as₂ = v.map .kept ++ as₃ ∧ hit.text = u ++ c :: v ∧
      rule.pattern.matchAt (textOf as₀).getLast? (hit.text ++ textOf as₃) = some hit ∧
      (hit.text = marker.toList ∨ rule.accepts hit.text = false) := by
  obtain ⟨as₀, _, _, as₃, rfl, rfl, htile⟩ := tile_of_atoms has
  rcases htile.kept_inv with ⟨rfl, rfl, hnone⟩ | ⟨hit, u, v, rfl, rfl, htext, hmatch, hveto⟩ |
    ⟨hit, u, v, _, _, -, -, -, haims⟩ | ⟨hit, _, _, u, v, -, -, -, haims⟩
  · exact .inl (by simpa using hnone)
  · exact .inr ⟨as₀, as₃, hit, u, v, rfl, rfl, htext, by simpa using hmatch,
      hveto [] hit.text [] ⟨by simp, by simp [ContentRule.target, hextent]⟩⟩
  · obtain ⟨h, -⟩ := haims.whole hextent
    simp at h
  · obtain ⟨-, -, h⟩ := haims.whole hextent
    simp at h

/-- A rule that hides every match keeps nothing where a match begins. -/
theorem matchAt_kept (hextent : rule.extent = .wholeMatch) (haccepts : ∀ s, rule.accepts s)
    (hforeign : ∀ {prev w next}, rule.pattern.Accepts prev w next → ∃ x ∈ w, x ∉ marker.toList)
    (hw : w ≠ []) (has : rule.atoms text = as₁ ++ (w.map .kept ++ as₂)) :
    rule.pattern.matchAt (textOf as₁).getLast? (w ++ textOf as₂) = none := by
  obtain ⟨c, w, rfl⟩ := List.exists_cons_of_ne_nil hw
  rw [List.map_cons, List.cons_append] at has
  rcases kept_of_whole hextent has with hnone | ⟨as₀, as₃, hit, u, v, -, -, -, hmatch, hveto⟩
  · rw [textOf_append, textOf_map_kept] at hnone
    cases hmatch : rule.pattern.matchAt (textOf as₁).getLast? (c :: w ++ textOf as₂) with
    | none => rfl
    | some hit =>
      obtain ⟨stop, -, -, -, h⟩ := matchAt_eq_some hmatch
      obtain ⟨x, hx, -⟩ := hforeign h
      exact absurd hx (hnone hit hmatch ▸ List.not_mem_nil)
  · obtain ⟨stop, -, -, -, h⟩ := matchAt_eq_some hmatch
    obtain ⟨x, hx, hx'⟩ := hforeign h
    rcases hveto with hveto | hveto
    · exact absurd (hveto ▸ hx) hx'
    · simp [haccepts] at hveto

/-- Nor does it keep a text that its pattern accepts. -/
theorem not_accepts_kept (hextent : rule.extent = .wholeMatch) (haccepts : ∀ s, rule.accepts s)
    (hforeign : ∀ {prev w next}, rule.pattern.Accepts prev w next → ∃ x ∈ w, x ∉ marker.toList)
    (has : rule.atoms text = as₁ ++ (w.map .kept ++ as₂)) :
    ¬rule.pattern.Accepts (textOf as₁).getLast? w (textOf as₂).head? := by
  intro h
  obtain ⟨x, hx, -⟩ := hforeign h
  have hnone := matchAt_kept hextent haccepts hforeign (List.ne_nil_of_mem hx) has
  have hsome := matchAt_isSome_iff.2 ⟨w, textOf as₂, rfl, h⟩
  simp [hnone] at hsome

/-! ## The fences of the rules -/

theorem fenceAfter_of_whole (hextent : rule.extent = .wholeMatch)
    (hstops : ∀ {prev text hit rest}, rule.pattern.matchAt prev text = some hit → text = hit.text ++ rest →
      hit.text ≠ [] ∧ ∀ x, rest.head? = some x → alphanumeric.contains x → ¬IsWordAt hit.text.getLast?) :
    FenceAfter (rule.atoms text) := by
  intro as₁ secret c as₂ has
  obtain ⟨hit, rfl, hmatch, -⟩ := hidden_of_whole hextent has
  obtain ⟨hne, h⟩ := hstops hmatch rfl
  exact ⟨hne, h c rfl⟩

theorem fences_of_enclosed {L : List Char → Prop} (hextent : rule.extent = .wholeMatch)
    (hp : Enclosed rule.pattern L) : FenceAfter (rule.atoms text) ∧ FenceBefore (rule.atoms text) := by
  constructor
  · refine fenceAfter_of_whole hextent fun hmatch htext => ?_
    obtain ⟨stop, -, htext', -, h⟩ := matchAt_eq_some hmatch
    obtain ⟨hL, -, hnext⟩ := hp.accepts.1 h
    rw [List.append_cancel_left (htext.symm.trans htext')]
    refine ⟨(hp.unmarked hL).ne_nil, fun x hx hxa => ?_⟩
    rw [hx] at hnext
    exact absurd (isWord_of_alphanumeric hxa) hnext
  · intro as₁ c secret as₂ has
    have has : rule.atoms text = (as₁ ++ [.kept c]) ++ .hidden secret :: as₂ := by simpa using has
    obtain ⟨hit, rfl, hmatch, -⟩ := hidden_of_whole hextent has
    obtain ⟨stop, -, -, -, h⟩ := matchAt_eq_some hmatch
    obtain ⟨-, hprev, -⟩ := hp.accepts.1 h
    exact fun hc => hprev (by simpa [List.getLast?_append] using isWord_of_alphanumeric hc)

end ContentRule

/-! ## Words apart from the marker -/

theorem Unmarked.of_over {S : CharSet} (h : Over S w) (hopen : S.contains '[' = false)
    (hclose : S.contains ']' = false) (hx : x ∈ w) (hforeign : x ∉ marker.toList) : Unmarked w :=
  ⟨h.not_mem hopen, h.not_mem hclose, x, hx, hforeign⟩

theorem IsKeyLine.unmarked {opening : String} (h : IsKeyLine opening w) (hopen : '[' ∉ opening.toList)
    (hclose : ']' ∉ opening.toList) : Unmarked w := by
  obtain ⟨label, rfl, hlabel⟩ := h
  have hlabelOpen := hlabel.not_mem (x := '[') rfl
  have hlabelClose := hlabel.not_mem (x := ']') rfl
  exact ⟨by simp [hopen, hlabelOpen], by simp [hclose, hlabelClose], '-', by simp, by decide⟩

/-- Three parts with dots between them. -/
theorem over_parts {c : List Char} (ha : Over base64Url a) (hb : Over base64Url b) (hc : Over base64Url c) :
    Over (.union base64Url (.single '.')) (a ++ '.' :: (b ++ '.' :: c)) := by
  have hpart : ∀ {w}, Over base64Url w → Over (.union base64Url (.single '.')) w :=
    fun h x hx => Bool.or_eq_true_iff.2 (.inl (h x hx))
  exact over_append.2 ⟨hpart ha, over_cons.2 ⟨rfl, over_append.2 ⟨hpart hb, over_cons.2 ⟨rfl, hpart hc⟩⟩⟩⟩

theorem IsWebToken.unmarked (h : IsWebToken w) : Unmarked w := by
  obtain ⟨a, b, c, rfl, ⟨-, ha⟩, ⟨-, hb⟩, -, hc⟩ := h
  exact .of_over (x := 'e') (over_append.2 ⟨by decide, over_parts ha hb hc⟩) rfl rfl (by simp) (by decide)

theorem IsSignedToken.unmarked (h : IsSignedToken w) : Unmarked w := by
  obtain ⟨a, b, c, rfl, ⟨-, ha⟩, ⟨-, hb⟩, -, hc⟩ := h
  exact .of_over (x := '.') (over_parts ha hb hc) rfl rfl (by simp) (by decide)

theorem IsAccessKey.unmarked (h : IsAccessKey w) : Unmarked w := by
  refine .of_over (x := 'I') h.over rfl rfl ?_ (by decide)
  obtain ⟨a, b, rfl, rfl | rfl, -⟩ := h <;> simp

theorem IsForgeToken.unmarked (h : IsForgeToken w) : Unmarked w := by
  obtain ⟨kind, run, rfl, hkind, -, hrun⟩ := h
  have hopen := hrun.not_mem (x := '[') rfl
  have hclose := hrun.not_mem (x := ']') rfl
  have hkindOpen : '[' ≠ kind := by
    rintro rfl
    exact absurd hkind (by decide)
  have hkindClose : ']' ≠ kind := by
    rintro rfl
    exact absurd hkind (by decide)
  exact ⟨by simp [hopen, hkindOpen], by simp [hclose, hkindClose], 'g', by simp, by decide⟩

theorem isOpaqueCredential_foreign (h : isOpaqueCredential w) : ∃ x ∈ w, x ∉ marker.toList := by
  have hlower : marker.toList.all fun y => !y.isLower := by decide
  simp only [isOpaqueCredential, Bool.and_eq_true, List.any_eq_true] at h
  obtain ⟨x, hx, hxl⟩ := h.1.1.1
  refine ⟨x, hx, fun hmem => ?_⟩
  have := List.all_eq_true.1 hlower x hmem
  simp [hxl] at this

theorem IsBearerSecret.not_mem_bracket (h : IsBearerSecret w) : '[' ∉ w ∧ ']' ∉ w := by
  obtain ⟨token, pad, rfl, ⟨-, htoken⟩, hpad⟩ := h
  have hopen : bearerChar.contains '[' = false := by decide
  have hclose : bearerChar.contains ']' = false := by decide
  have hpadOpen := hpad.not_mem (x := '[') rfl
  have hpadClose := hpad.not_mem (x := ']') rfl
  exact ⟨by simp [htoken.not_mem hopen, hpadOpen], by simp [htoken.not_mem hclose, hpadClose]⟩

theorem IsBearerSecret.head (h : IsBearerSecret w) : ∃ x v, w = x :: v ∧ Text.isBlank x = false := by
  obtain ⟨token, pad, rfl, ⟨hlen, htoken⟩, -⟩ := h
  obtain ⟨x, token, rfl⟩ := List.exists_cons_of_ne_nil (List.length_pos_iff.1 (Nat.lt_of_lt_of_le (by decide) hlen))
  refine ⟨x, token ++ pad, rfl, Bool.eq_false_iff.2 fun hblank => ?_⟩
  have := htoken x List.mem_cons_self
  simp [bearerChar_of_blank hblank] at this

theorem IsBearerFront.unmarked_append (hfront : IsBearerFront a) (hsecret : IsBearerSecret b) :
    Unmarked (a ++ b) := by
  obtain ⟨scheme, blanks, rfl, hscheme, hne, hblanks⟩ := hfront
  obtain ⟨hopen, hclose⟩ := hsecret.not_mem_bracket
  have hmarker : marker.toList.all fun y => !Text.isBlank y := by decide
  have hblanksOpen := hblanks.not_mem (x := '[') rfl
  have hblanksClose := hblanks.not_mem (x := ']') rfl
  have hschemeOpen : '[' ∉ scheme := fun h => (hscheme.not_blank h).2.1 rfl
  have hschemeClose : ']' ∉ scheme := fun h => (hscheme.not_blank h).2.2 rfl
  refine ⟨by simp [hopen, hblanksOpen, hschemeOpen], by simp [hclose, hblanksClose, hschemeClose],
    blanks.head hne, by simp, fun hmem => ?_⟩
  have hblank : Text.isBlank (blanks.head hne) := hblanks _ (List.head_mem hne)
  have := List.all_eq_true.1 hmarker _ hmem
  simp [hblank] at this

theorem accessKey_enclosed : Enclosed accessKey IsAccessKey :=
  ⟨accepts_accessKey, IsAccessKey.solid, IsAccessKey.unmarked⟩

theorem forgeToken_enclosed : Enclosed forgeToken IsForgeToken :=
  ⟨accepts_forgeToken, IsForgeToken.solid, IsForgeToken.unmarked⟩

/-! ## The fences of the built-in rules -/

variable {text : List Char}

theorem webTokenRule_fenceAfter : FenceAfter (webTokenRule.atoms text) := by
  refine ContentRule.fenceAfter_of_whole rfl fun {prev text hit rest} hmatch htext => ?_
  have hstops : Stops base64Url rest.head? :=
    matchAt_plus_greedy [.one (.single 'e'), .one (.single 'y'), .one (.single 'J'), (Pattern.one base64Url).plus true,
      .one (.single '.'), (Pattern.one base64Url).plus true, .one (.single '.')] hmatch htext
  obtain ⟨stop, -, -, -, h⟩ := matchAt_eq_some hmatch
  refine ⟨(accepts_webToken.1 h).unmarked.ne_nil, fun x hx hxa => ?_⟩
  have := hstops x hx
  simp [base64Url_of_alphanumeric hxa] at this

theorem signedTokenRule_fenceAfter : FenceAfter (signedTokenRule.atoms text) := by
  refine ContentRule.fenceAfter_of_whole rfl fun {prev text hit rest} hmatch htext => ?_
  obtain ⟨stop, -, htext', -, h⟩ := matchAt_eq_some hmatch
  obtain ⟨htoken, -, hedge⟩ := accepts_signedToken.1 h
  rw [← List.append_cancel_left (htext.symm.trans htext')] at hedge
  have hne : hit.text ≠ [] := htoken.unmarked.ne_nil
  refine ⟨hne, fun x hx hxa hword => hedge ?_⟩
  rw [List.getLast?_eq_some_getLast hne] at hword ⊢
  rw [hx]
  exact iff_of_true hword (isWord_of_alphanumeric hxa)

theorem accessKeyRule_fences : FenceAfter (accessKeyRule.atoms text) ∧ FenceBefore (accessKeyRule.atoms text) :=
  ContentRule.fences_of_enclosed rfl accessKey_enclosed

theorem forgeTokenRule_fences : FenceAfter (forgeTokenRule.atoms text) ∧ FenceBefore (forgeTokenRule.atoms text) :=
  ContentRule.fences_of_enclosed rfl forgeToken_enclosed

theorem opaqueRun_stops {prev : Option Char} {rest : List Char} {hit : Hit}
    (h : opaqueRun.matchAt prev text = some hit) (htext : text = hit.text ++ rest) :
    Stops alphanumeric rest.head? :=
  matchAt_atLeast_greedy (n := 24) (by decide) h htext

theorem opaqueTokenRule_fenceAfter : FenceAfter (opaqueTokenRule.atoms text) := by
  refine ContentRule.fenceAfter_of_whole rfl fun {prev text hit rest} hmatch htext => ?_
  have hstops := opaqueRun_stops hmatch htext
  obtain ⟨stop, -, -, -, h⟩ := matchAt_eq_some hmatch
  refine ⟨List.length_pos_iff.1 ?_, fun x hx hxa => ?_⟩
  · have := (accepts_opaqueRun.1 h).1
    omega
  · simp [hstops x hx] at hxa

theorem opaqueTokenRule_fenceBefore : FenceBefore (opaqueTokenRule.atoms text) := by
  intro as₁ c secret as₂ has hc
  have has' : opaqueTokenRule.atoms text = (as₁ ++ [.kept c]) ++ .hidden secret :: as₂ := by simpa using has
  obtain ⟨hit, rfl, hmatch, -⟩ := ContentRule.hidden_of_whole rfl has'
  obtain ⟨stop, -, -, -, h⟩ := matchAt_eq_some hmatch
  obtain ⟨hlen, hover⟩ := accepts_opaqueRun.1 h
  have hne : hit.text ≠ [] := List.length_pos_iff.1 (by omega)
  rcases ContentRule.kept_of_whole rfl has with hnone | ⟨as₀, as₃, hit', u, v, -, has₃, -, hmatch', -⟩
  · -- The run could have begun one character earlier.
    have hsome : (opaqueRun.matchAt (textOf as₁).getLast? (c :: textOf (.hidden hit.text :: as₂))).isSome :=
      matchAt_isSome_iff.2 ⟨c :: hit.text, textOf as₂, rfl, accepts_opaqueRun.2
        ⟨by rw [List.length_cons]; omega, over_cons.2 ⟨hc, hover⟩⟩⟩
    obtain ⟨hit', hmatch'⟩ := Option.isSome_iff_exists.1 hsome
    obtain ⟨stop, -, -, -, h⟩ := matchAt_eq_some hmatch'
    have := (accepts_opaqueRun.1 h).1
    simp [hnone hit' hmatch'] at this
  · -- The earlier run would have gone on into this one.
    cases v with
    | nil =>
      obtain rfl : .hidden hit.text :: as₂ = as₃ := has₃
      have hhead := opaqueRun_stops hmatch' rfl (hit.text.head hne) (by simp [List.head?_eq_some_head hne])
      simp [hover _ (List.head_mem hne)] at hhead
    | cons y v => cases has₃

/-- The rule for bearer tokens aims at the end of its match. -/
theorem bearerTokenRule_aims {prev : Option Char} {rest : List Char} {hit : Hit}
    (hmatch : bearerToken.matchAt prev text = some hit) (htext : text = hit.text ++ rest) :
    ∃ front secret, bearerTokenRule.Aims hit front secret [] ∧ IsBearerFront front ∧ IsBearerSecret secret ∧
      (IsWordAt secret.getLast? → Stops bearerChar rest.head?) := by
  obtain ⟨front, secret, rest', hhit, htext', hgroup, hfront, hsecret, hstops⟩ := bearerToken_hit hmatch
  rw [← hhit] at htext'
  rw [← List.append_cancel_left (htext.symm.trans htext')] at hstops
  exact ⟨front, secret, ⟨by simpa using hhit, hgroup⟩, hfront, hsecret, hstops⟩

theorem bearerTokenRule_fenceAfter : FenceAfter (bearerTokenRule.atoms text) := by
  intro as₁ secret c as₂ has
  obtain ⟨as₀, _, tile₂, as₃, rfl, htail, htile⟩ := ContentRule.tile_of_atoms has
  obtain ⟨hit, front, back, rfl, rfl, hmatch, haims, -⟩ := htile.hidden_inv
  obtain ⟨front', secret', haims', -, hsecret, hstops⟩ := bearerTokenRule_aims hmatch rfl
  obtain ⟨rfl, rfl, rfl⟩ := haims.unique haims'
  obtain rfl : .kept c :: as₂ = as₃ := htail
  obtain ⟨x, v, rfl, -⟩ := hsecret.head
  refine ⟨List.cons_ne_nil _ _, fun hc hword => ?_⟩
  have := hstops hword c rfl
  simp [bearerChar_of_alphanumeric hc] at this

end Periscope.Redaction
