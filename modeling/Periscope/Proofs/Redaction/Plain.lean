import Periscope.Proofs.Redaction.Passwords
import Periscope.Proofs.Redaction.Spans

/-!
# What passes through

Every rule on texts needs a character that identifiers and digests do not have: a separator, a capital that is no
hexadecimal digit, or small letters next to capitals beyond the hexadecimal ones. Main result: `plain_passes`.
-/

namespace Periscope

open Redaction Pattern

/-! ## Texts that are handed back -/

namespace Redactor

variable {r : Redactor} {text : List Char}

/-- The text after the content rules; nothing if none of them hides anything, so that the text itself is handed
back. -/
def replaced? (r : Redactor) (text : List Char) : Option (List Char) :=
  r.contentRules.foldl (fun shown rule => (rule.replaced? (shown.getD text)).or shown) none

theorem getD_replaced? (r : Redactor) (text : List Char) : (r.replaced? text).getD text = r.redactChars text := by
  suffices folded : ∀ (rules : List ContentRule) (shown : Option (List Char)),
      (rules.foldl (fun shown rule => (rule.replaced? (shown.getD text)).or shown) shown).getD text =
        rules.foldl (fun current rule => rule.apply current) (shown.getD text) from folded r.contentRules none
  intro rules
  induction rules with
  | nil => exact fun shown => rfl
  | cons rule rest ih =>
    intro shown
    rw [List.foldl_cons, List.foldl_cons, ih, ← ContentRule.getD_replaced?]
    cases rule.replaced? (shown.getD text) <;> rfl

theorem replaced?_eq_none (h : ∀ rule ∈ r.contentRules, rule.hitCount text = 0) : r.replaced? text = none := by
  rw [replaced?]
  revert h
  induction r.contentRules with
  | nil => exact fun _ => rfl
  | cons rule rest ih =>
    intro h
    obtain ⟨hrule, hrest⟩ := List.forall_mem_cons.1 h
    rw [List.foldl_cons, Option.getD_none, ContentRule.replaced?_eq_none.2 hrule]
    exact ih hrest

theorem textHits_eq_nil {s : String} (h : ∀ rule ∈ r.contentRules, rule.hitCount s.toList = 0) :
    r.textHits s = [] := by
  suffices run : ∀ hit ∈ runHits r.contentRules s.toList, hit.2 = 0 by
    simpa [textHits, List.filter_eq_nil_iff] using fun name n hn => run (name, n) hn
  revert h
  induction r.contentRules with
  | nil => simp [runHits]
  | cons rule rest ih =>
    intro h
    obtain ⟨hrule, hrest⟩ := List.forall_mem_cons.1 h
    rw [runHits, ContentRule.apply_of_hitCount hrule]
    exact List.forall_mem_cons.2 ⟨hrule, ih hrest⟩

end Redactor

/-! ## Texts without credentials -/

namespace Redaction

variable {rule : ContentRule} {prev next : Option Char} {text w : List Char} {x : Char}

/-- A blank, or one of the signs that stand between the parts of a text. -/
def Separates (x : Char) : Prop := Text.isBlank x ∨ x ∈ ['=', ':', '_', '.']

/-- A hexadecimal digit with letters of either case. -/
def IsHexDigit (x : Char) : Prop := x.isDigit ∨ ('a' ≤ x ∧ x ≤ 'f') ∨ ('A' ≤ x ∧ x ≤ 'F')

/-- The text of an identifier or a digest: of one part, and without capitals or all hexadecimal digits. -/
structure Plain (text : List Char) : Prop where
  whole : ∀ x ∈ text, ¬Separates x
  uniform : (∀ x ∈ text, x.isUpper = false) ∨ ∀ x ∈ text, IsHexDigit x

instance : Decidable (Separates x) := inferInstanceAs (Decidable (_ ∨ _))

instance : Decidable (IsHexDigit x) := inferInstanceAs (Decidable (_ ∨ _))

theorem plain_iff : Plain text ↔ text.all (fun x => !decide (Separates x)) ∧
    (text.all (fun x => !x.isUpper) ∨ text.all fun x => decide (IsHexDigit x)) := by
  simp only [List.all_eq_true, Bool.not_eq_true', decide_eq_false_iff_not, decide_eq_true_eq]
  exact ⟨fun h => ⟨h.whole, h.uniform⟩, fun h => ⟨h.1, h.2⟩⟩

instance : Decidable (Plain text) := decidable_of_iff' _ plain_iff

theorem hitCount_of_needed {P : Char → Prop}
    (needed : ∀ {prev next w}, rule.pattern.Accepts prev w next → ∃ x ∈ w, P x) (h : ∀ x ∈ text, ¬P x) :
    rule.hitCount text = 0 := by
  refine hitCount_of_not_occursIn fun hoccurs => ?_
  obtain ⟨a, w, b, rfl, hw⟩ := occursIn_iff.1 hoccurs
  obtain ⟨x, hx, hP⟩ := needed hw
  exact h x (by simp [hx]) hP

theorem separates_privateKey (h : privateKey.Accepts prev w next) : ∃ x ∈ w, Separates x := by
  obtain ⟨_, _, _, rfl, ⟨label, rfl, -⟩, -⟩ := accepts_privateKey.1 h
  exact ⟨' ', by simp, .inl (by decide)⟩

theorem separates_urlCredentials (h : urlCredentials.Accepts prev w next) : ∃ x ∈ w, Separates x := by
  obtain ⟨origin, user, password, rfl, hlogin⟩ := accepts_urlCredentials.1 h
  exact ⟨':', by simp, .inr (by decide)⟩

theorem separates_assignment (h : assignment.Accepts prev w next) : ∃ x ∈ w, Separates x := by
  rw [assignment_eq, accepts_seqs_append] at h
  obtain ⟨site, value, rfl, hsite, -⟩ := h
  obtain ⟨_, separator, rfl, -, hseparator⟩ := (accepts_site.1 hsite).1
  obtain ⟨x, hx, hsign⟩ := hseparator.exists_sign
  refine ⟨x, by simp [hx], .inr ?_⟩
  rcases contains_signMark.1 hsign with rfl | rfl <;> decide

theorem separates_bearerToken (h : bearerToken.Accepts prev w next) : ∃ x ∈ w, Separates x := by
  obtain ⟨_, secret, rfl, ⟨⟨scheme, blanks, rfl, -, hne, hblanks⟩, -⟩, -⟩ := accepts_bearerToken.1 h
  exact ⟨blanks.head hne, by simp, .inl (hblanks _ (List.head_mem hne))⟩

theorem separates_webToken (h : webToken.Accepts prev w next) : ∃ x ∈ w, Separates x := by
  obtain ⟨a, b, c, rfl, -⟩ := accepts_webToken.1 h
  exact ⟨'.', by simp, .inr (by decide)⟩

theorem separates_signedToken (h : signedToken.Accepts prev w next) : ∃ x ∈ w, Separates x := by
  obtain ⟨⟨a, b, c, rfl, -⟩, -⟩ := accepts_signedToken.1 h
  exact ⟨'.', by simp, .inr (by decide)⟩

theorem separates_forgeToken (h : forgeToken.Accepts prev w next) : ∃ x ∈ w, Separates x := by
  obtain ⟨⟨kind, run, rfl, -⟩, -⟩ := accepts_forgeToken.1 h
  exact ⟨'_', by simp, .inr (by decide)⟩

/-- Both beginnings of an access key have a capital that is no hexadecimal digit. -/
theorem capital_accessKey (h : accessKey.Accepts prev w next) : 'I' ∈ w := by
  obtain ⟨⟨a, b, rfl, ha, -⟩, -⟩ := accepts_accessKey.1 h
  rcases ha with rfl | rfl <;> simp

theorem Plain.not_mem_capital (h : Plain text) : 'I' ∉ text := by
  intro hx
  rcases h.uniform with hlower | hhex
  · exact absurd (hlower 'I' hx) (by decide)
  · exact absurd (hhex 'I' hx) (by decide)

theorem Plain.opaqueFree (h : Plain text) : OpaqueFree text := by
  intro run hrun _ _
  rw [← Bool.not_eq_true]
  intro hopaque
  simp only [isOpaqueCredential, Bool.and_eq_true, List.any_eq_true, Bool.not_eq_true', List.all_eq_false] at hopaque
  obtain ⟨⟨⟨-, y, hy, hupper⟩, -⟩, z, hz, hhex⟩ := hopaque
  rcases h.uniform with hlower | hall
  · simp [hlower y (hrun.subset hy)] at hupper
  · refine hhex ?_
    have := hall z (hrun.subset hz)
    simpa [IsHexDigit, or_assoc] using this

theorem Plain.hitCount (h : Plain text) : ∀ rule ∈ Redactor.builtin.contentRules, rule.hitCount text = 0 := by
  rw [contentRules_builtin]
  simp only [builtinContentRules, List.forall_mem_cons, List.not_mem_nil, false_implies, implies_true, and_true]
  have hcapital : ∀ x ∈ text, 'I' ≠ x := fun x hx heq => h.not_mem_capital (heq ▸ hx)
  exact ⟨hitCount_of_needed separates_privateKey h.whole, hitCount_of_needed separates_urlCredentials h.whole,
    hitCount_of_needed separates_assignment h.whole, hitCount_of_needed separates_bearerToken h.whole,
    hitCount_of_needed separates_webToken h.whole, hitCount_of_needed separates_signedToken h.whole,
    hitCount_of_needed (fun hw => ⟨'I', capital_accessKey hw, rfl⟩) hcapital,
    hitCount_of_needed separates_forgeToken h.whole, hitCount_opaqueTokenRule h.opaqueFree⟩

end Redaction

/-! ## Values -/

namespace Json

mutual

/-- The keys of all objects in a value. -/
def keys : Json → List String
  | .arr items => itemKeys items
  | .obj members => memberKeys members
  | _ => []

/-- The keys in the items. -/
def itemKeys : List Json → List String
  | [] => []
  | v :: rest => v.keys ++ itemKeys rest

/-- The keys of the members and in their values. -/
def memberKeys : List (String × Json) → List String
  | [] => []
  | (key, v) :: rest => key :: v.keys ++ memberKeys rest

end

end Json

namespace Redactor

variable {r : Redactor}

mutual

/-- A value comes back as it is if no key is hidden and every string comes back as it is. -/
theorem redactValue_eq_self : (v : Json) → (∀ key ∈ v.keys, r.keyRule? key = none) →
    (∀ s ∈ v.leaves, r.redactText s = s ∧ r.textHits s = []) → r.redactValue v = v ∧ r.valueHits v = []
  | .null, _, _ => by simp [redactValue, valueHits]
  | .bool _, _, _ => by simp [redactValue, valueHits]
  | .num _, _, _ => by simp [redactValue, valueHits]
  | .str s, _, h => by
      have := h s (by simp [Json.leaves])
      simpa [redactValue, valueHits] using this
  | .arr items, hkeys, h => by
      simpa [redactValue, valueHits] using redactItems_eq_self items (by simpa [Json.keys] using hkeys)
        (by simpa [Json.leaves] using h)
  | .obj members, hkeys, h => by
      simpa [redactValue, valueHits] using redactMembers_eq_self members (by simpa [Json.keys] using hkeys)
        (by simpa [Json.leaves] using h)

theorem redactItems_eq_self : (items : List Json) → (∀ key ∈ Json.itemKeys items, r.keyRule? key = none) →
    (∀ s ∈ Json.itemLeaves items, r.redactText s = s ∧ r.textHits s = []) →
    r.redactItems items = items ∧ r.itemHits items = []
  | [], _, _ => by simp [redactItems, itemHits]
  | v :: rest, hkeys, h => by
      simp only [Json.itemKeys, List.forall_mem_append] at hkeys
      simp only [Json.itemLeaves, List.forall_mem_append] at h
      obtain ⟨hv, hhits⟩ := redactValue_eq_self v hkeys.1 h.1
      obtain ⟨hrest, hrestHits⟩ := redactItems_eq_self rest hkeys.2 h.2
      exact ⟨by rw [redactItems, hv, hrest], by rw [itemHits, hhits, hrestHits, List.append_nil]⟩

theorem redactMembers_eq_self : (members : List (String × Json)) →
    (∀ key ∈ Json.memberKeys members, r.keyRule? key = none) →
    (∀ s ∈ Json.memberLeaves members, r.redactText s = s ∧ r.textHits s = []) →
    r.redactMembers members = members ∧ r.memberHits members = []
  | [], _, _ => by simp [redactMembers, memberHits]
  | (key, v) :: rest, hkeys, h => by
      simp only [Json.memberKeys, List.cons_append, List.forall_mem_cons, List.forall_mem_append] at hkeys
      simp only [Json.memberLeaves, List.forall_mem_append] at h
      obtain ⟨hkey, hkeys, hlater⟩ := hkeys
      obtain ⟨hv, hhits⟩ := redactValue_eq_self v hkeys h.1
      obtain ⟨hrest, hrestHits⟩ := redactMembers_eq_self rest hlater h.2
      exact ⟨by simp [redactMembers, hkey, hv, hrest], by simp [memberHits, hkey, hhits, hrestHits]⟩

end

/-- A plain text is handed back itself, and a value of plain strings under keys that no rule matches comes back as it
is, with nothing to report. -/
theorem plain_passes :
    (∀ s : String, Plain s.toList → builtin.redactText s = s ∧ builtin.replaced? s.toList = none) ∧
    ∀ v : Json, (∀ key ∈ v.keys, builtin.keyRule? key = none) → (∀ s ∈ v.leaves, Plain s.toList) →
      builtin.redactValue v = v ∧ builtin.report v = [] := by
  have htext : ∀ s : String, Plain s.toList → builtin.redactText s = s ∧ builtin.replaced? s.toList = none := by
    intro s hs
    have hnone := replaced?_eq_none hs.hitCount
    refine ⟨?_, hnone⟩
    rw [redactText, ← getD_replaced?, hnone, Option.getD_none, String.ofList_toList]
  refine ⟨htext, fun v hkeys hleaves => ?_⟩
  obtain ⟨hsame, hhits⟩ := redactValue_eq_self v hkeys fun s hs =>
    ⟨(htext s (hleaves s hs)).1, textHits_eq_nil (hleaves s hs).hitCount⟩
  exact ⟨hsame, by rw [report, hhits]; rfl⟩

theorem plain_passes_digest :
    Plain "9fceb02D0ae598e95DC970b74767f19372d61af8".toList ∧
    builtin.replaced? "9fceb02D0ae598e95DC970b74767f19372d61af8".toList = none ∧
    builtin.redactValue (.obj [("digest", .str "9fceb02D0ae598e95DC970b74767f19372d61af8"),
        ("names", .arr [.str "web-0", .str "custom-resource-definitions-of-the-cluster"])]) =
      .obj [("digest", .str "9fceb02D0ae598e95DC970b74767f19372d61af8"),
        ("names", .arr [.str "web-0", .str "custom-resource-definitions-of-the-cluster"])] := by
  have digest : Plain "9fceb02D0ae598e95DC970b74767f19372d61af8".toList := by decide
  refine ⟨digest, (plain_passes.1 _ digest).2, (plain_passes.2 _ ?_ ?_).1⟩
  · simp only [← Option.isNone_iff_eq_none]
    decide +kernel
  · decide +kernel

end Redactor

end Periscope
