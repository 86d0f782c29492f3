import Periscope.Redaction.Builtin
import Periscope.Proofs.Pattern.Greedy

/-!
# What the built-in patterns describe

The language of each pattern whose rule hides the whole match, and of the pattern of bearer tokens.
-/

namespace Periscope.Redaction

open Pattern

variable {prev next : Option Char} {w : List Char} {c x : Char}

/-! ## Characters -/

theorem toNat_lt_of_alphanumeric (h : alphanumeric.contains c) : c.toNat < 128 := by
  simp only [alphanumeric, CharSet.unions, CharSet.contains, Char.le_def, UInt32.le_iff_toNat_le, Bool.or_eq_true,
    Bool.and_eq_true, decide_eq_true_eq] at h
  have hZ : 'Z'.val.toNat = 90 := rfl
  have hz : 'z'.val.toNat = 122 := rfl
  have h9 : '9'.val.toNat = 57 := rfl
  simp only [Char.toNat]
  omega

/-- What holds of every ASCII letter and digit is checked one by one. -/
theorem of_alphanumeric {P : Char → Bool}
    (hall : ∀ n < 128, alphanumeric.contains (Char.ofNat n) → P (Char.ofNat n)) (h : alphanumeric.contains c) :
    P c := by
  have := hall c.toNat (toNat_lt_of_alphanumeric h)
  rw [Char.ofNat_toNat] at this
  exact this h

theorem isWord_of_alphanumeric : alphanumeric.contains c → Text.isWord c := of_alphanumeric (by decide)

theorem base64Url_of_alphanumeric : alphanumeric.contains c → base64Url.contains c :=
  of_alphanumeric (by decide)

theorem bearerChar_of_alphanumeric : alphanumeric.contains c → bearerChar.contains c :=
  of_alphanumeric (by decide +kernel)

/-- The code points of the blank characters. -/
def blankCodes : List Nat :=
  [0x09, 0x0A, 0x0B, 0x0C, 0x0D, 0x20] ++
    Text.blankRanges.flatMap fun range => List.range' range.1 (range.2 - range.1 + 1)

theorem toNat_mem_blankCodes (h : Text.isBlank c) : c.toNat ∈ blankCodes := by
  rw [Text.isBlank] at h
  split at h
  · simp only [Bool.or_eq_true, beq_iff_eq, Bool.and_eq_true, decide_eq_true_eq, UInt32.le_iff_toNat_le] at h
    rcases h with rfl | ⟨hlow, hhigh⟩
    · decide
    · have hlow : 9 ≤ c.toNat := hlow
      have hhigh : c.toNat ≤ 13 := hhigh
      have hmem : ∀ n ≤ 13, 9 ≤ n → n ∈ blankCodes := by decide
      exact hmem _ hhigh hlow
  · obtain ⟨range, hrange, h⟩ := List.any_eq_true.1 h
    simp only [Bool.and_eq_true, decide_eq_true_eq] at h
    refine List.mem_append_right _ (List.mem_flatMap.2 ⟨range, hrange, ?_⟩)
    rw [List.mem_range'_1]
    omega

theorem bearerChar_of_blank (h : Text.isBlank c) : bearerChar.contains c = false := by
  have hall : ∀ n ∈ blankCodes, bearerChar.contains (Char.ofNat n) = false := by decide +kernel
  have := hall _ (toNat_mem_blankCodes h)
  rwa [Char.ofNat_toNat] at this

/-! ## Letter case -/

theorem contains_ofList {cs : List Char} : (CharSet.ofList cs).contains x ↔ x ∈ cs := by
  induction cs with
  | nil => simp [CharSet.ofList, CharSet.none, CharSet.contains, Text.Ranges.contains]
  | cons c cs ih =>
    cases cs with
    | nil => simp [CharSet.ofList, contains_single]
    | cons d cs =>
      rw [CharSet.ofList, CharSet.contains, Bool.or_eq_true, contains_single, ih]
      · exact List.mem_cons.symm
      · exact List.cons_ne_nil _ _

theorem contains_fold_single : (CharSet.single c).fold.contains x ↔ x ∈ Text.foldOrbit c := by
  simp only [CharSet.single, CharSet.fold, beq_self_eq_true, ↓reduceIte, contains_ofList]

/-- The text `w` spells `cs`, letter case apart. -/
def Spells : List Char → List Char → Prop
  | [], w => w = []
  | c :: cs, w => ∃ x v, w = x :: v ∧ x ∈ Text.foldOrbit c ∧ Spells cs v

theorem accepts_folded {cs : List Char} :
    (seqs (cs.map fun c => .one (CharSet.single c).fold)).Accepts prev w next ↔ Spells cs w := by
  induction cs generalizing prev w with
  | nil => exact Iff.rfl
  | cons c cs ih => simp only [List.map_cons, accepts_one_seqs, contains_fold_single, ih, Spells]

theorem Spells.exists_mem {cs : List Char} (h : Spells cs w) (hx : x ∈ w) : ∃ c ∈ cs, x ∈ Text.foldOrbit c := by
  induction cs generalizing w with
  | nil => exact absurd hx (h ▸ List.not_mem_nil)
  | cons c cs ih =>
    obtain ⟨y, v, rfl, hy, hv⟩ := h
    rcases List.mem_cons.1 hx with rfl | hx
    · exact ⟨c, List.mem_cons_self, hy⟩
    · obtain ⟨c, hc, hx⟩ := ih hv hx
      exact ⟨c, List.mem_cons_of_mem _ hc, hx⟩

/-! ## Private keys -/

/-- A line of the armour around a private key. -/
def IsKeyLine (opening : String) (w : List Char) : Prop :=
  ∃ label, w = opening.toList ++ (label ++ "PRIVATE KEY-----".toList) ∧ Over capitalOrSpace label

theorem accepts_keyLine {opening : String} :
    (seqs (privateKey.seqItems opening ++ [(Pattern.one capitalOrSpace).star true] ++
      privateKey.seqItems "PRIVATE KEY-----")).Accepts prev w next ↔ IsKeyLine opening w := by
  have hclose : ∀ {prev next w}, (seqs (privateKey.seqItems "PRIVATE KEY-----")).Accepts prev w next ↔ _ :=
    accepts_literal
  rw [List.append_assoc, List.singleton_append, privateKey.seqItems, accepts_chars_seqs]
  simp only [accepts_star_seqs, hclose, IsKeyLine]
  constructor
  · rintro ⟨_, rfl, label, _, rfl, hlabel, rfl⟩
    exact ⟨label, rfl, hlabel⟩
  · rintro ⟨label, rfl, hlabel⟩
    exact ⟨_, rfl, label, _, rfl, hlabel, rfl⟩

theorem over_any : Over .any w := fun _ _ => rfl

/-- A private key ends with its closing line or with the text. -/
theorem accepts_privateKey : privateKey.Accepts prev w next ↔
    ∃ header body close, w = header ++ (body ++ close) ∧ IsKeyLine "-----BEGIN" header ∧
      (IsKeyLine "-----END" close ∨ close = [] ∧ next = none) := by
  have hend : ∀ {prev next : Option Char} {w}, (seqs [alts [seqs (privateKey.seqItems "-----END" ++
      [(Pattern.one capitalOrSpace).star true] ++ privateKey.seqItems "PRIVATE KEY-----"),
        .assert .textEnd]]).Accepts prev w next ↔ IsKeyLine "-----END" w ∨ w = [] ∧ next = none := by
    intro prev next w
    simp only [seqs, alts, accepts_alt, accepts_keyLine, Accepts, Assertion.isTrue, Option.isNone_iff_eq_none]
  rw [privateKey, accepts_seqs_append]
  simp only [accepts_keyLine, accepts_star_seqs, hend]
  constructor
  · rintro ⟨header, _, rfl, hheader, body, close, rfl, -, hclose⟩
    exact ⟨header, body, close, rfl, hheader, hclose⟩
  · rintro ⟨header, body, close, rfl, hheader, hclose⟩
    exact ⟨header, _, rfl, hheader, body, close, rfl, over_any, hclose⟩

/-! ## Tokens -/

/-- A web token: three parts over the base64 alphabet for URLs. -/
def IsWebToken (w : List Char) : Prop :=
  ∃ a b c, w = "eyJ".toList ++ (a ++ '.' :: (b ++ '.' :: c)) ∧ (a ≠ [] ∧ Over base64Url a) ∧
    (b ≠ [] ∧ Over base64Url b) ∧ (c ≠ [] ∧ Over base64Url c)

theorem accepts_webToken : webToken.Accepts prev w next ↔ IsWebToken w := by
  simp only [webToken, accepts_single_seqs, accepts_plus_seqs, accepts_seqs_nil, IsWebToken]
  constructor
  · rintro ⟨_, rfl, _, rfl, _, rfl, a, _, rfl, ha, _, rfl, b, _, rfl, hb, _, rfl, c, _, rfl, hc, rfl⟩
    exact ⟨a, b, c, by simp, ha, hb, hc⟩
  · rintro ⟨a, b, c, rfl, ha, hb, hc⟩
    exact ⟨_, rfl, _, rfl, _, rfl, a, _, rfl, ha, _, rfl, b, _, rfl, hb, _, rfl, c, _, (List.append_nil c).symm,
      hc, rfl⟩

/-- Between two edges of words stands what is between them. -/
theorem accepts_bounded (ps : List Pattern) {L : List Char → Prop}
    (hL : ∀ {prev w next}, (seqs ps).Accepts prev w next ↔ L w) :
    (seqs (wordBoundary :: (ps ++ [wordBoundary]))).Accepts prev w next ↔
      L w ∧ ¬(IsWordAt prev ↔ IsWordAt (w.head?.or next)) ∧ ¬(IsWordAt (w.getLast?.or prev) ↔ IsWordAt next) := by
  have hlast : ∀ {prev w next}, (seqs [wordBoundary]).Accepts prev w next ↔
      w = [] ∧ ¬(IsWordAt prev ↔ IsWordAt next) := by
    simp only [seqs, wordBoundary, Accepts, isTrue_boundary, implies_true]
  rw [wordBoundary, accepts_assert_seqs, isTrue_boundary, ← wordBoundary, accepts_seqs_append]
  simp only [hL, hlast]
  constructor
  · rintro ⟨hfirst, u, _, rfl, hu, rfl, hlast⟩
    rw [List.append_nil] at hfirst ⊢
    exact ⟨hu, hfirst, hlast⟩
  · rintro ⟨hw, hfirst, hlast⟩
    exact ⟨hfirst, w, [], (List.append_nil w).symm, hw, rfl, hlast⟩

/-- A signed token: three long parts over the base64 alphabet for URLs. -/
def IsSignedToken (w : List Char) : Prop :=
  ∃ a b c, w = a ++ '.' :: (b ++ '.' :: c) ∧ (16 ≤ a.length ∧ Over base64Url a) ∧
    (16 ≤ b.length ∧ Over base64Url b) ∧ (16 ≤ c.length ∧ Over base64Url c)

theorem accepts_signedToken : signedToken.Accepts prev w next ↔ IsSignedToken w ∧
    ¬(IsWordAt prev ↔ IsWordAt (w.head?.or next)) ∧ ¬(IsWordAt (w.getLast?.or prev) ↔ IsWordAt next) := by
  refine accepts_bounded [(Pattern.one base64Url).atLeast true 16, .one (.single '.'),
    (Pattern.one base64Url).atLeast true 16, .one (.single '.'), (Pattern.one base64Url).atLeast true 16] ?_
  intro prev w next
  simp only [accepts_single_seqs, accepts_atLeast_seqs, accepts_seqs_nil, IsSignedToken]
  constructor
  · rintro ⟨a, _, rfl, ha, _, rfl, b, _, rfl, hb, _, rfl, c, _, rfl, hc, rfl⟩
    exact ⟨a, b, c, by simp, ha, hb, hc⟩
  · rintro ⟨a, b, c, rfl, ha, hb, hc⟩
    exact ⟨a, _, rfl, ha, _, rfl, b, _, rfl, hb, _, rfl, c, _, (List.append_nil c).symm, hc, rfl⟩

/-- The text begins and ends with an ASCII letter or digit. -/
structure Solid (w : List Char) : Prop where
  first : ∃ x, w.head? = some x ∧ alphanumeric.contains x
  last : ∃ x, w.getLast? = some x ∧ alphanumeric.contains x

/-- As `accepts_bounded`, where the edges can only be outer ones. -/
theorem accepts_enclosed (ps : List Pattern) {L : List Char → Prop}
    (hL : ∀ {prev w next}, (seqs ps).Accepts prev w next ↔ L w) (hsolid : ∀ w, L w → Solid w) :
    (seqs (wordBoundary :: (ps ++ [wordBoundary]))).Accepts prev w next ↔
      L w ∧ ¬IsWordAt prev ∧ ¬IsWordAt next := by
  rw [accepts_bounded ps hL]
  refine and_congr_right fun hw => ?_
  obtain ⟨x, hx, hxa⟩ := (hsolid w hw).first
  obtain ⟨y, hy, hya⟩ := (hsolid w hw).last
  have hx' : IsWordAt (some x) := isWord_of_alphanumeric hxa
  have hy' : IsWordAt (some y) := isWord_of_alphanumeric hya
  rw [hx, hy, Option.some_or, Option.some_or, iff_true_right hx', iff_true_left hy']

/-- An access key: a well-known beginning and sixteen capitals or digits. -/
def IsAccessKey (w : List Char) : Prop :=
  ∃ a b, w = a ++ b ∧ (a = "AKIA".toList ∨ a = "ASIA".toList) ∧
    (b.length = 16 ∧ Over (.unions [.range '0' '9', .range 'A' 'Z']) b)

theorem Over.alphanumeric_of_capitalOrDigit (h : Over (.unions [.range '0' '9', .range 'A' 'Z']) w) :
    Over alphanumeric w := by
  intro x hx
  have := h x hx
  simp only [CharSet.unions, CharSet.contains, Bool.or_eq_true] at this
  simp only [alphanumeric, CharSet.unions, CharSet.contains, Bool.or_eq_true]
  exact this.elim (fun h => .inr (.inr h)) .inl

theorem IsAccessKey.over (h : IsAccessKey w) : Over alphanumeric w := by
  obtain ⟨a, b, rfl, ha, -, hb⟩ := h
  refine over_append.2 ⟨?_, Over.alphanumeric_of_capitalOrDigit hb⟩
  rcases ha with rfl | rfl <;> decide

theorem Solid.of_over (hw : w ≠ []) (h : Over alphanumeric w) : Solid w where
  first := ⟨w.head hw, List.head?_eq_some_head hw, h _ (List.head_mem hw)⟩
  last := ⟨w.getLast hw, List.getLast?_eq_some_getLast hw, h _ (List.getLast_mem hw)⟩

theorem IsAccessKey.solid (h : IsAccessKey w) : Solid w := by
  refine .of_over ?_ h.over
  obtain ⟨a, b, rfl, rfl | rfl, -⟩ := h <;> exact List.cons_ne_nil _ _

theorem accepts_accessKey : accessKey.Accepts prev w next ↔
    IsAccessKey w ∧ ¬IsWordAt prev ∧ ¬IsWordAt next := by
  refine accepts_enclosed [.alts [literal "AKIA", literal "ASIA"],
    (Pattern.one (.unions [.range '0' '9', .range 'A' 'Z'])).exactly 16] ?_ fun _ h => h.solid
  intro prev w next
  have hprefix : ∀ {prev next w}, (alts [literal "AKIA", literal "ASIA"]).Accepts prev w next ↔
      w = "AKIA".toList ∨ w = "ASIA".toList := by
    simp only [alts, accepts_alt, accepts_literal, implies_true]
  simp only [accepts_seqs_cons, hprefix, accepts_exactly_one, accepts_seqs_nil, IsAccessKey]
  constructor
  · rintro ⟨a, _, rfl, ha, b, _, rfl, hb, rfl⟩
    exact ⟨a, b, by simp, ha, hb⟩
  · rintro ⟨a, b, rfl, ha, hb⟩
    exact ⟨a, _, rfl, ha, b, _, (List.append_nil b).symm, hb, rfl⟩

/-- A forge token: `gh`, a letter for its kind, an underscore and a long run of letters and digits. -/
def IsForgeToken (w : List Char) : Prop :=
  ∃ kind run, w = 'g' :: 'h' :: kind :: '_' :: run ∧
    (CharSet.unions [.single 'p', .single 'o', .single 'u', .single 's', .single 'r']).contains kind ∧
    (36 ≤ run.length ∧ Over alphanumeric run)

theorem IsForgeToken.solid (h : IsForgeToken w) : Solid w := by
  obtain ⟨kind, run, rfl, -, hlen, hrun⟩ := h
  have hne : run ≠ [] := List.length_pos_iff.1 (by omega)
  refine ⟨⟨'g', rfl, by decide⟩, run.getLast hne, ?_, hrun _ (List.getLast_mem hne)⟩
  rw [show 'g' :: 'h' :: kind :: '_' :: run = ['g', 'h', kind, '_'] ++ run from rfl, List.getLast?_append,
    List.getLast?_eq_some_getLast hne, Option.some_or]

theorem accepts_forgeToken : forgeToken.Accepts prev w next ↔
    IsForgeToken w ∧ ¬IsWordAt prev ∧ ¬IsWordAt next := by
  refine accepts_enclosed [.one (.single 'g'), .one (.single 'h'),
    .one (.unions [.single 'p', .single 'o', .single 'u', .single 's', .single 'r']), .one (.single '_'),
    (Pattern.one alphanumeric).atLeast true 36] ?_ fun _ h => h.solid
  intro prev w next
  simp only [accepts_one_seqs, contains_single, accepts_atLeast_seqs, accepts_seqs_nil, IsForgeToken]
  constructor
  · rintro ⟨_, _, rfl, rfl, _, _, rfl, rfl, kind, _, rfl, hkind, _, _, rfl, rfl, run, _, rfl, hrun, rfl⟩
    exact ⟨kind, run, by simp, hkind, hrun⟩
  · rintro ⟨kind, run, rfl, hkind, hrun⟩
    exact ⟨_, _, rfl, rfl, _, _, rfl, rfl, kind, _, rfl, hkind, _, _, rfl, rfl, run, _, (List.append_nil run).symm,
      hrun, rfl⟩

theorem accepts_opaqueRun : opaqueRun.Accepts prev w next ↔ 24 ≤ w.length ∧ Over alphanumeric w :=
  accepts_atLeast_one

/-! ## Bearer tokens -/

/-- The word of an authorization scheme. -/
def IsScheme (w : List Char) : Prop := Spells "bearer".toList w ∨ Spells "basic".toList w

theorem accepts_authScheme : authScheme.Accepts prev w next ↔ IsScheme w := or_congr accepts_folded accepts_folded

theorem IsScheme.head (h : IsScheme w) : ∃ x v, w = x :: v ∧ alphanumeric.contains x := by
  have hb : ∀ x ∈ Text.foldOrbit 'b', alphanumeric.contains x := List.all_eq_true.1 (by decide)
  rcases h with ⟨x, v, rfl, hx, -⟩ | ⟨x, v, rfl, hx, -⟩ <;> exact ⟨x, v, rfl, hb x hx⟩

theorem IsScheme.exists_mem (h : IsScheme w) (hx : x ∈ w) :
    ∃ c ∈ "bearer".toList ++ "basic".toList, x ∈ Text.foldOrbit c := by
  rcases h with h | h
  · obtain ⟨c, hc, hx⟩ := h.exists_mem hx
    exact ⟨c, List.mem_append_left _ hc, hx⟩
  · obtain ⟨c, hc, hx⟩ := h.exists_mem hx
    exact ⟨c, List.mem_append_right _ hc, hx⟩

theorem IsScheme.not_blank (h : IsScheme w) (hx : x ∈ w) : Text.isBlank x = false ∧ x ≠ '[' ∧ x ≠ ']' := by
  have hall : ("bearer".toList ++ "basic".toList).all fun c => (Text.foldOrbit c).all fun x =>
      !Text.isBlank x && x != '[' && x != ']' := by decide +kernel
  obtain ⟨c, hc, hx⟩ := h.exists_mem hx
  simpa [and_assoc] using List.all_eq_true.1 (List.all_eq_true.1 hall c hc) x hx

/-- What stands in front of a bearer token. -/
def IsBearerFront (w : List Char) : Prop :=
  ∃ scheme blanks, w = scheme ++ blanks ∧ IsScheme scheme ∧ (blanks ≠ [] ∧ Over .blank blanks)

/-- A bearer token with its padding. -/
def IsBearerSecret (w : List Char) : Prop :=
  ∃ token pad, w = token ++ pad ∧ (8 ≤ token.length ∧ Over bearerChar token) ∧ Over (.single '=') pad

theorem accepts_bearerFront : (seqs [wordBoundary, authScheme, (Pattern.one .blank).plus true]).Accepts prev w next ↔
    IsBearerFront w ∧ ¬IsWordAt prev := by
  rw [wordBoundary, accepts_assert_seqs, isTrue_boundary, and_comm]
  simp only [accepts_seqs_cons, accepts_authScheme, accepts_plus_one, accepts_seqs_nil]
  constructor
  · rintro ⟨⟨scheme, _, rfl, hscheme, blanks, _, rfl, hblanks, rfl⟩, hedge⟩
    refine ⟨⟨scheme, blanks, by simp, hscheme, hblanks⟩, fun hprev => hedge ?_⟩
    obtain ⟨x, v, rfl, hx⟩ := hscheme.head
    exact iff_of_true hprev (isWord_of_alphanumeric hx)
  · rintro ⟨⟨scheme, blanks, rfl, hscheme, hblanks⟩, hprev⟩
    refine ⟨⟨scheme, _, rfl, hscheme, blanks, _, (List.append_nil _).symm, hblanks, rfl⟩, fun hedge => hprev ?_⟩
    obtain ⟨x, v, rfl, hx⟩ := hscheme.head
    exact hedge.2 (isWord_of_alphanumeric hx)

theorem accepts_bearerSecret :
    (seqs [(Pattern.one bearerChar).atLeast true 8, (Pattern.one (.single '=')).star true]).Accepts prev w next ↔
      IsBearerSecret w := by
  simp only [accepts_atLeast_seqs, accepts_star_seqs, accepts_seqs_nil, IsBearerSecret]
  constructor
  · rintro ⟨token, _, rfl, htoken, pad, _, rfl, hpad, rfl⟩
    exact ⟨token, pad, by simp, htoken, hpad⟩
  · rintro ⟨token, pad, rfl, htoken, hpad⟩
    exact ⟨token, _, rfl, htoken, pad, _, (List.append_nil _).symm, hpad, rfl⟩

theorem accepts_bearerToken : bearerToken.Accepts prev w next ↔
    ∃ front secret, w = front ++ secret ∧ (IsBearerFront front ∧ ¬IsWordAt prev) ∧ IsBearerSecret secret := by
  have hgroup : ∀ {prev w next}, (seqs [group "secret" (seqs [(Pattern.one bearerChar).atLeast true 8,
      (Pattern.one (.single '=')).star true])]).Accepts prev w next ↔ IsBearerSecret w := accepts_bearerSecret
  rw [bearerToken, show ∀ a b c d : Pattern, [a, b, c, d] = [a, b, c] ++ [d] from fun _ _ _ _ => rfl,
    accepts_seqs_append]
  simp only [accepts_bearerFront, hgroup]

/-- The token of a bearer match goes on as far as it can, unless padding ends it. -/
theorem bearerToken_hit {text : List Char} {hit : Hit} (h : bearerToken.matchAt prev text = some hit) :
    ∃ front secret rest, hit.text = front ++ secret ∧ text = front ++ secret ++ rest ∧
      hit.groups.lookup "secret" = some (front.length, front.length + secret.length) ∧ IsBearerFront front ∧
      IsBearerSecret secret ∧ (IsWordAt secret.getLast? → Stops bearerChar rest.head?) := by
  obtain ⟨stop, hrun, htext, hgroups, -⟩ := matchAt_eq_some h
  obtain ⟨front, d, hfront, hfrontAccepts, hrun⟩ :=
    run_group [wordBoundary, authScheme, (Pattern.one .blank).plus true] [] hrun
  rw [run_seqs_cons] at hrun
  obtain ⟨token, d', htoken, hlen, hover, hstops, hrun⟩ :=
    run_atLeast_greedy (by decide) (fun _ => run_star_isSome fun _ => rfl) hrun
  obtain ⟨pad, d'', hpad, hpadAccepts, hstop⟩ := run_sound _ _ _ _ hrun
  obtain rfl := Option.some.inj hstop
  have hpad' : Over (.single '=') pad := accepts_star_one.1 hpadAccepts
  have hrest : text = front ++ (token ++ (pad ++ d''.rest)) := by
    rw [← hpad.rest, ← htoken.rest]
    exact hfront.rest
  refine ⟨front, token ++ pad, d''.rest, ?_, by rw [hrest]; simp, ?_, (accepts_bearerFront.1 hfrontAccepts).1,
    ⟨token, pad, rfl, ⟨hlen, hover⟩, hpad'⟩, fun hword => ?_⟩
  · exact List.append_cancel_right (htext.symm.trans (hrest.trans (by simp)))
  · have hd : d.pos = front.length := hfront.pos.trans (Nat.zero_add _)
    rw [hgroups, List.length_append, ← Nat.add_assoc, ← hd, ← htoken.pos, ← hpad.pos]
    exact List.lookup_cons_self
  · rcases List.eq_nil_or_concat pad with rfl | ⟨pad, x, rfl⟩
    · rw [hpad.rest] at hstops
      exact hstops
    · obtain rfl := contains_single.1 (hpad' x (by simp))
      have hword : IsWordAt (some '=') := by simpa using hword
      exact absurd hword (by decide)

/-! ## Ends of texts -/

/-- The text has a last character, and it satisfies `P`. -/
def Ends (P : Char → Prop) (w : List Char) : Prop := ∃ c, w.getLast? = some c ∧ P c

theorem Ends.of_all {P : Char → Prop} (hw : w ≠ []) (h : ∀ x ∈ w, P x) : Ends P w :=
  ⟨w.getLast hw, List.getLast?_eq_some_getLast hw, h _ (List.getLast_mem hw)⟩

theorem Ends.append_left {P : Char → Prop} {u v : List Char} (h : Ends P v) : Ends P (u ++ v) := by
  obtain ⟨c, hc, hP⟩ := h
  exact ⟨c, by rw [List.getLast?_append, hc, Option.some_or], hP⟩

theorem Ends.append {P : Char → Prop} {u v : List Char} (hu : Ends P u) (hv : v ≠ [] → Ends P v) :
    Ends P (u ++ v) := by
  by_cases h : v = []
  · rwa [h, List.append_nil]
  · exact (hv h).append_left

end Periscope.Redaction
