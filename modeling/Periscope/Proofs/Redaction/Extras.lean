import Periscope.Proofs.Redaction.Selection
import Periscope.Proofs.Text.Lowercase

/-!
# Configured extras

A redactor with configured key terms and patterns hides what the built-in one hides, and more: it may cut higher up, and
it works on what the built-in rules have left of a text. A blank term and a text that is no pattern change nothing. All
this holds for every reader of patterns. Main result: `extras_never_unredact`.
-/

namespace Periscope.Redactor

open Json Redaction

variable {r r' : Redactor} {v : Json} {path : List Step} {key : String} {text : List Char}
  {read : String → Option Pattern}

/-! ## Cuts -/

/-- Whether redaction puts the marker at the end of the path because a key rule matches its last key. -/
def CutsAt (r : Redactor) (v : Json) (path : List Step) : Prop :=
  ∃ front key, path = front ++ [.key key] ∧ r.isOpen front ∧ r.Hides key ∧ (v.at? path).isSome

theorem at?_of_cutsAt (h : r.CutsAt v path) : (r.redactValue v).at? path = some (.str marker) := by
  obtain ⟨front, key, rfl, hfront, hkey, hsome⟩ := h
  exact (r.selects_redactValue v).hidden front key [] hfront hkey hsome

/-- A redactor hides everything that another one hides, and does `further` to what the other leaves of a text. -/
structure Extends (r' r : Redactor) (further : List Char → List Char) : Prop where
  hides : ∀ key, r.Hides key → r'.Hides key
  redactChars : ∀ text, r'.redactChars text = further (r.redactChars text)

variable {further : List Char → List Char}

/-- Where one redactor cuts, the other has cut there or higher up. -/
theorem Extends.exists_cutsAt (h : r'.Extends r further) (hcut : r.CutsAt v path) :
    ∃ front, front <+: path ∧ r'.CutsAt v front := by
  obtain ⟨front, key, rfl, -, hkey, hsome⟩ := hcut
  -- The way to the cut is open in the other redactor, or the first key there that it hides is its own cut.
  rcases r'.isOpen_or_exists front with hopen | ⟨higher, key', back, rfl, hopen, hkey'⟩
  · exact ⟨_, List.prefix_refl _, front, key, rfl, hopen, h.hides key hkey, hsome⟩
  · have hsplit : (higher ++ .key key' :: back) ++ [.key key] = (higher ++ [.key key']) ++ (back ++ [.key key]) := by
      simp
    rw [hsplit, at?_append] at hsome
    rw [hsplit]
    exact ⟨_, List.prefix_append _ _, higher, key', rfl, hopen, hkey', Option.isSome_of_isSome_bind hsome⟩

/-- The same value up to its strings, of which one has those of the other after `further`. Below an array or an object
this is said of the paths there. -/
inductive Further (further : List Char → List Char) : Json → Json → Prop
  | null : Further further .null .null
  | bool (b : Bool) : Further further (.bool b) (.bool b)
  | num (n : Json.Number) : Further further (.num n) (.num n)
  | str (s : String) : Further further (.str s) (.str (String.ofList (further s.toList)))
  | arr {items items' : List Json} : items.length = items'.length → Further further (.arr items) (.arr items')
  | obj {members members' : List (String × Json)} : members.map Prod.fst = members'.map Prod.fst →
      Further further (.obj members) (.obj members')

theorem Extends.further_redactValue (h : r'.Extends r further) (v : Json) :
    Further further (r.redactValue v) (r'.redactValue v) := by
  cases v with
  | null => exact .null
  | bool b => exact .bool b
  | num n => exact .num n
  | str s =>
    have hs : r'.redactText s = String.ofList (further (r.redactText s).toList) := by
      rw [redactText, h.redactChars, redactText, String.toList_ofList]
    rw [redactValue, redactValue, hs]
    exact .str _
  | arr items =>
    simp only [redactValue, redactItems_eq]
    exact .arr (by simp)
  | obj members =>
    simp only [redactValue, redactMembers_eq]
    exact .obj (by simp)

theorem Extends.isOpen (h : r'.Extends r further) (hopen : r'.isOpen path) : r.isOpen path := by
  simp only [Redactor.isOpen, List.all_eq_true] at hopen ⊢
  intro step hstep
  have hpasses := hopen step hstep
  cases step with
  | index i => rfl
  | key key =>
    simp only [passes, Option.isNone_iff_eq_none] at hpasses ⊢
    refine Option.not_isSome_iff_eq_none.1 fun hkey => ?_
    have hides := h.hides key hkey
    simp [Hides, hpasses] at hides

/-- What stands at a path that is not cut is what the other redactor leaves there, after `further`. -/
theorem Extends.exists_at? (h : r'.Extends r further) {e : Json} (hat : (r'.redactValue v).at? path = some e)
    (hcut : ¬r'.CutsAt v path) : ∃ b, (r.redactValue v).at? path = some b ∧ Further further b e := by
  obtain ⟨hsome, hopen | ⟨front, key, rfl, hfront, hkey⟩⟩ :=
    (r'.selects_redactValue v).nothingElse path (by rw [hat]; rfl)
  · obtain ⟨w, hw⟩ := Option.isSome_iff_exists.1 hsome
    have hkept := (r'.selects_redactValue v).kept path w hopen hw
    obtain rfl := Option.some.inj (hat.symm.trans hkept)
    exact ⟨_, (r.selects_redactValue v).kept path w (h.isOpen hopen) hw, h.further_redactValue w⟩
  · exact absurd ⟨front, key, rfl, hfront, hkey, hsome⟩ hcut

/-! ## Configured terms -/

theorem hides_iff : r.Hides key ↔ ∃ rule ∈ r.rules, rule.matchesKey key.toList := by
  rw [Hides, keyRule?, List.find?_isSome]

/-- Something is left of the term when it is trimmed. -/
def isTerm (term : String) : Bool := !(Text.trimBlank term.toList).isEmpty

theorem isSome_extraKeyRule? (term : String) : (extraKeyRule? term).isSome = isTerm term := by
  have hempty : (String.ofList (Text.lowercase (Text.trimBlank term.toList))).isEmpty =
      (Text.trimBlank term.toList).isEmpty := by
    rw [Bool.eq_iff_iff, String.isEmpty_iff, ← String.toList_inj, String.toList_ofList, List.isEmpty_iff]
    exact Text.lowercase_eq_nil_iff
  rw [extraKeyRule?, hempty, isTerm]
  cases (Text.trimBlank term.toList).isEmpty <;> rfl

theorem hides_configured_iff (read : String → Option Pattern) (keys patterns : List String) :
    (configured read keys patterns).Hides key ↔
      builtin.Hides key ∨ ∃ rule ∈ keys.filterMap extraKeyRule?, rule.matchesKey key.toList := by
  have hnone : ∀ {i source rule}, extraContentRule? read i source = some rule →
      rule.matchesKey key.toList = false := by
    intro i source rule hrule
    obtain ⟨pattern, -, rfl⟩ := Option.map_eq_some_iff.1 hrule
    rfl
  rw [hides_iff, hides_iff, configured, builtin]
  constructor
  · rintro ⟨rule, hrule, hmatches⟩
    rcases List.mem_append.1 hrule with hrule | hrule
    · rcases List.mem_append.1 hrule with hrule | hrule
      · exact .inl ⟨rule, hrule, hmatches⟩
      · exact .inr ⟨rule, hrule, hmatches⟩
    · obtain ⟨⟨source, i⟩, -, hrule⟩ := List.mem_filterMap.1 hrule
      simp [hnone hrule] at hmatches
  · rintro (⟨rule, hrule, hmatches⟩ | ⟨rule, hrule, hmatches⟩)
    · exact ⟨rule, List.mem_append_left _ (List.mem_append_left _ hrule), hmatches⟩
    · exact ⟨rule, List.mem_append_left _ (List.mem_append_right _ hrule), hmatches⟩

/-! ## Configured patterns -/

/-- The text with the marker in the place of every match. -/
def maskMatches (text : List Char) (pattern : Pattern) : List Char :=
  (pattern.segments text).flatMap fun
    | .plain c => [c]
    | .hit _ => marker.toList

/-- The text after the patterns, one after the other; what `read` takes for no pattern does nothing. -/
def afterPatterns (read : String → Option Pattern) (patterns : List String) (text : List Char) : List Char :=
  (patterns.filterMap read).foldl maskMatches text

theorem apply_eq_maskMatches {rule : ContentRule} (hextent : rule.extent = .wholeMatch)
    (haccepts : ∀ s, rule.accepts s) : rule.apply text = maskMatches text rule.pattern := by
  have hshown : ∀ hit : Pattern.Hit, (rule.hitPieces hit).flatMap Piece.shown = marker.toList := by
    intro hit
    simp only [ContentRule.hitPieces, ContentRule.target, hextent, List.drop_zero, Nat.sub_zero, List.take_length,
      haccepts, Bool.not_true, Bool.or_false]
    split
    · next hmarker => simpa [Piece.shown] using hmarker
    · simp [Piece.shown]
  rw [ContentRule.apply, ContentRule.pieces, maskMatches, List.flatMap_assoc]
  congr
  funext segment
  cases segment with
  | plain c => rfl
  | hit hit => exact hshown hit

theorem contentRules_configured (read : String → Option Pattern) (keys patterns : List String) :
    (configured read keys patterns).contentRules =
      builtin.contentRules ++
        patterns.zipIdx.filterMap fun (source, i) => (extraContentRule? read i source).bind Rule.content? := by
  have hkeys : (keys.filterMap extraKeyRule?).filterMap Rule.content? = [] := by
    rw [List.filterMap_filterMap, List.filterMap_eq_nil_iff]
    intro term _
    rw [extraKeyRule?]
    split <;> rfl
  rw [contentRules, configured, List.filterMap_append, List.filterMap_append, hkeys, List.append_nil,
    List.filterMap_filterMap]
  rfl

theorem foldl_extraContentRules (patterns : List String) (i : Nat) (text : List Char) :
    ((patterns.zipIdx i).filterMap fun (source, i) => (extraContentRule? read i source).bind Rule.content?).foldl
      (fun current rule => rule.apply current) text = afterPatterns read patterns text := by
  induction patterns generalizing i text with
  | nil => rfl
  | cons source patterns ih =>
    rw [List.zipIdx_cons, afterPatterns]
    cases hpattern : read source with
    | none =>
      rw [List.filterMap_cons_none (by simp [extraContentRule?, hpattern]), List.filterMap_cons_none hpattern]
      exact ih (i + 1) text
    | some pattern =>
      simp only [List.filterMap_cons, extraContentRule?, hpattern, Option.map_some, Option.bind_some, Rule.content?,
        List.foldl_cons]
      rw [apply_eq_maskMatches (by rfl) fun _ => rfl]
      exact ih (i + 1) _

theorem redactChars_configured (read : String → Option Pattern) (keys patterns : List String) (text : List Char) :
    (configured read keys patterns).redactChars text = afterPatterns read patterns (builtin.redactChars text) := by
  rw [redactChars, contentRules_configured, List.foldl_append, foldl_extraContentRules]
  rfl

theorem configured_extends (read : String → Option Pattern) (keys patterns : List String) :
    (configured read keys patterns).Extends builtin (afterPatterns read patterns) where
  hides _ hkey := (hides_configured_iff read keys patterns).2 (.inl hkey)
  redactChars := redactChars_configured read keys patterns

/-! ## What does not count -/

mutual

theorem redactValue_congr (hides : ∀ key, r.Hides key ↔ r'.Hides key) (text : ∀ s, r.redactText s = r'.redactText s) :
    (v : Json) → r.redactValue v = r'.redactValue v
  | .null => rfl
  | .bool _ => rfl
  | .num _ => rfl
  | .str s => by rw [redactValue, redactValue, text]
  | .arr items => by rw [redactValue, redactValue, redactItems_congr hides text items]
  | .obj members => by rw [redactValue, redactValue, redactMembers_congr hides text members]

theorem redactItems_congr (hides : ∀ key, r.Hides key ↔ r'.Hides key) (text : ∀ s, r.redactText s = r'.redactText s) :
    (items : List Json) → r.redactItems items = r'.redactItems items
  | [] => rfl
  | v :: rest => by
      rw [redactItems, redactItems, redactValue_congr hides text v, redactItems_congr hides text rest]

theorem redactMembers_congr (hides : ∀ key, r.Hides key ↔ r'.Hides key)
    (text : ∀ s, r.redactText s = r'.redactText s) :
    (members : List (String × Json)) → r.redactMembers members = r'.redactMembers members
  | [] => rfl
  | (key, v) :: rest => by
      have hkey : (r.keyRule? key).isSome = (r'.keyRule? key).isSome := Bool.eq_iff_iff.2 (hides key)
      rw [redactMembers, redactMembers, redactValue_congr hides text v, redactMembers_congr hides text rest, hkey]

end

theorem filterMap_filter_isSome {α β : Type} {f : α → Option β} {p : α → Bool} (hp : ∀ x, (f x).isSome = p x)
    (l : List α) : (l.filter p).filterMap f = l.filterMap f := by
  rw [List.filterMap_filter]
  congr
  funext x
  have hx := hp x
  cases hf : f x with
  | none => simp
  | some y => simp_all

theorem redactValue_configured_congr {keys keys' patterns patterns' : List String}
    (hkeys : keys'.filter isTerm = keys.filter isTerm)
    (hpatterns : patterns'.filter (read · |>.isSome) = patterns.filter (read · |>.isSome)) (v : Json) :
    (configured read keys' patterns').redactValue v = (configured read keys patterns).redactValue v := by
  have hrules : keys'.filterMap extraKeyRule? = keys.filterMap extraKeyRule? := by
    rw [← filterMap_filter_isSome isSome_extraKeyRule?, hkeys, filterMap_filter_isSome isSome_extraKeyRule?]
  have hread : patterns'.filterMap read = patterns.filterMap read := by
    rw [← filterMap_filter_isSome fun _ => rfl, hpatterns, filterMap_filter_isSome fun _ => rfl]
  refine redactValue_congr (fun key => ?_) (fun s => ?_) v
  · rw [hides_configured_iff, hides_configured_iff, hrules]
  · rw [redactText, redactText, redactChars_configured, redactChars_configured, afterPatterns, afterPatterns, hread]

/-! ## Extras -/

/-- Extras never bring anything back, whatever reads their patterns. Where a built-in key rule puts the marker, there is
one there or higher up. At every path that is not cut stands what the built-in rules leave there, its text after the
patterns, in their order. Blank terms and texts that are no patterns do not count. -/
theorem extras_never_unredact (read : String → Option Pattern) (keys patterns : List String) (v : Json) :
    (∀ path, builtin.CutsAt v path → ∃ front, front <+: path ∧ (configured read keys patterns).CutsAt v front ∧
      ((configured read keys patterns).redactValue v).at? front = some (.str marker)) ∧
    (∀ path e, ((configured read keys patterns).redactValue v).at? path = some e →
      ¬(configured read keys patterns).CutsAt v path →
        ∃ b, (builtin.redactValue v).at? path = some b ∧ Further (afterPatterns read patterns) b e) ∧
    ∀ keys' patterns', keys'.filter isTerm = keys.filter isTerm →
      patterns'.filter (read · |>.isSome) = patterns.filter (read · |>.isSome) →
      (configured read keys' patterns').redactValue v = (configured read keys patterns).redactValue v := by
  have extend := configured_extends read keys patterns
  refine ⟨fun path hcut => ?_, fun path e hat hcut => extend.exists_at? hat hcut, fun keys' patterns' hkeys hpatterns =>
    redactValue_configured_congr hkeys hpatterns v⟩
  obtain ⟨front, hfront, hcut⟩ := extend.exists_cutsAt hcut
  exact ⟨front, hfront, hcut, at?_of_cutsAt hcut⟩

/-- A session with a token in it, and an owner. -/
def sessionNote : Json :=
  .obj [("owner", .str "acct-1234 token=abc"), ("session", .obj [("id", .ofNat 7), ("token", .str "abc")])]

/-- A redactor with a term that matches above a built-in one, and a pattern that works behind a built-in rule. -/
def sessionRedactor : Redactor := withExtras ["Session"] ["acct-[0-9]+"]

theorem sessionRedactor_owner : ¬sessionRedactor.Hides "owner" := by
  rw [sessionRedactor, withExtras, hides_configured_iff]
  have hbuiltin : (builtin.keyRule? "owner").isSome = false := by decide
  have hterm : (["Session"].filterMap extraKeyRule?).all fun rule => !rule.matchesKey "owner".toList := by
    decide
  rintro (hkey | ⟨rule, hrule, hmatches⟩)
  · simp [Hides, hbuiltin] at hkey
  · have hnot := List.all_eq_true.1 hterm rule hrule
    rw [hmatches] at hnot
    cases hnot

/-- The term is what hides the session: no built-in rule is about it. -/
theorem sessionRedactor_session : sessionRedactor.Hides "session" ∧ ¬builtin.Hides "session" := by
  have hterm : (["Session"].filterMap extraKeyRule?).any fun rule => rule.matchesKey "session".toList := by
    decide
  have hbuiltin : (builtin.keyRule? "session").isSome = false := by decide
  refine ⟨?_, by simp [Hides, hbuiltin]⟩
  rw [sessionRedactor, withExtras, hides_configured_iff]
  exact .inr (List.any_eq_true.1 hterm)

theorem sessionRedactor_redactText :
    sessionRedactor.redactText "acct-1234 token=abc" = "[REDACTED] token=[REDACTED]" := by
  have hread : Pattern.ofText? "acct-[0-9]+" = some (.seqs ("acct-".toList.map (fun c => .one (.single c)) ++
      [.plus (.one (.range '0' '9')) true])) := by decide +kernel
  have hbuiltin : builtin.redactChars "acct-1234 token=abc".toList = "acct-1234 token=[REDACTED]".toList := by
    decide +kernel
  rw [redactText, sessionRedactor, withExtras, redactChars_configured, hbuiltin, afterPatterns,
    List.filterMap_cons_some hread]
  decide

theorem sessionRedactor_redactValue :
    sessionRedactor.redactValue sessionNote =
      .obj [("owner", .str "[REDACTED] token=[REDACTED]"), ("session", .str marker)] := by
  have howner : (sessionRedactor.keyRule? "owner").isSome = false := by
    simpa [Hides] using sessionRedactor_owner
  rw [sessionNote, redactValue, redactMembers, howner, redactValue, sessionRedactor_redactText,
    redactMembers_cons_of_hides sessionRedactor_session.1, redactMembers]
  rfl

/-- The built-in redactor leaves the session open and cuts at its token. With the term the session is cut as a whole,
and the pattern works on what is left of the owner. A blank term and a text that is no pattern do nothing. -/
theorem extras_never_unredact_session :
    sessionRedactor.Hides "session" ∧ ¬builtin.Hides "session" ∧
    (∃ front, front <+: [.key "session", .key "token"] ∧ sessionRedactor.CutsAt sessionNote front ∧
      (sessionRedactor.redactValue sessionNote).at? front = some (.str marker)) ∧
    sessionRedactor.redactValue sessionNote =
      .obj [("owner", .str "[REDACTED] token=[REDACTED]"), ("session", .str marker)] ∧
    (∃ b, (builtin.redactValue sessionNote).at? [.key "owner"] = some b ∧
      Further (afterPatterns Pattern.ofText? ["acct-[0-9]+"]) b (.str "[REDACTED] token=[REDACTED]")) ∧
    (withExtras ["Session", "  "] ["(unclosed", "acct-[0-9]+"]).redactValue sessionNote =
      sessionRedactor.redactValue sessionNote := by
  obtain ⟨cuts, left, congr⟩ := extras_never_unredact Pattern.ofText? ["Session"] ["acct-[0-9]+"] sessionNote
  have htoken : (builtin.keyRule? "token").isSome := by decide
  have hsession : builtin.isOpen [.key "session"] := by decide
  have kept : (sessionRedactor.redactValue sessionNote).at? [.key "owner"] =
      some (.str "[REDACTED] token=[REDACTED]") := by
    rw [sessionRedactor_redactValue]
    rfl
  have hcut : ¬sessionRedactor.CutsAt sessionNote [.key "owner"] := by
    rintro ⟨front, key, hpath, -, hkey, -⟩
    obtain ⟨-, rfl⟩ : front = [] ∧ key = "owner" := by simpa [List.cons_eq_append_iff] using hpath
    exact sessionRedactor_owner hkey
  have hread : ["(unclosed", "acct-[0-9]+"].filter (Pattern.ofText? · |>.isSome) =
      ["acct-[0-9]+"].filter (Pattern.ofText? · |>.isSome) := by decide +kernel
  exact ⟨sessionRedactor_session.1, sessionRedactor_session.2,
    cuts _ ⟨[.key "session"], "token", rfl, hsession, htoken, rfl⟩, sessionRedactor_redactValue, left _ _ kept hcut,
    congr _ _ (by decide) hread⟩

end Periscope.Redactor
