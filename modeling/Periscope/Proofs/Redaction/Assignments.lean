import Periscope.Proofs.Redaction.Fences

/-!
# Assigned values

How a match of the pattern of assigned values lies in a text: a name that holds a secret word, a sign, perhaps
the word of an authorization scheme, and the value. The way of reading is determined by the text from the name
on (`Assigned.unique`), and a match that begins inside another one has the same value (`Assigned.overlap`).
-/

namespace Periscope.Redaction

open Pattern

variable {prev next : Option Char} {w rest : List Char} {c x : Char}

/-! ## Characters -/

/-- The signs that assign a value. -/
def signMark : CharSet := .unions [.single '=', .single ':']

/-- What may stand between a name and its value. -/
def separatorChar : CharSet := .unions [quoteMark, .blank, signMark]

theorem contains_quoteMark : quoteMark.contains c ↔ c = '"' ∨ c = '\'' := by
  simp only [quoteMark, CharSet.unions, CharSet.contains, contains_single, Bool.or_eq_true]

theorem contains_signMark : signMark.contains c ↔ c = '=' ∨ c = ':' := by
  simp only [signMark, CharSet.unions, CharSet.contains, contains_single, Bool.or_eq_true]

theorem contains_separatorChar :
    separatorChar.contains c ↔ quoteMark.contains c ∨ Text.isBlank c ∨ signMark.contains c := by
  simp only [separatorChar, CharSet.unions, CharSet.contains, Bool.or_eq_true]

theorem valueEnd_of_blank (h : Text.isBlank c) : valueEnd.contains c := by
  simp [valueEnd, CharSet.unions, CharSet.contains, h]

theorem of_blank {P : Char → Bool} (hall : ∀ n ∈ blankCodes, P (Char.ofNat n)) (h : Text.isBlank c) : P c := by
  have := hall _ (toNat_mem_blankCodes h)
  rwa [Char.ofNat_toNat] at this

theorem not_nameChar_of_valueEnd (h : valueEnd.contains c) : nameChar.contains c = false := by
  have hblank : Text.isBlank c → !nameChar.contains c :=
    of_blank (P := fun c => !nameChar.contains c) (by decide +kernel)
  simp only [valueEnd, CharSet.unions, CharSet.contains, Bool.or_eq_true, contains_single] at h
  rcases h with h | rfl | rfl | rfl | rfl | rfl | rfl | rfl
  · simpa using hblank h
  all_goals decide

theorem not_nameChar_of_separatorChar (h : separatorChar.contains c) : nameChar.contains c = false := by
  rcases contains_separatorChar.1 h with h | h | h
  · rcases contains_quoteMark.1 h with rfl | rfl <;> decide
  · exact not_nameChar_of_valueEnd (valueEnd_of_blank h)
  · rcases contains_signMark.1 h with rfl | rfl <;> decide

theorem not_valueEnd_of_nameChar (h : nameChar.contains c) : valueEnd.contains c = false := by
  refine Bool.eq_false_iff.2 fun hend => ?_
  simp [not_nameChar_of_valueEnd hend] at h

theorem not_blank_of_value (h : (CharSet.compl valueEnd).contains c) : CharSet.blank.contains c = false := by
  refine Bool.eq_false_iff.2 fun hblank => ?_
  simp [CharSet.contains, valueEnd_of_blank hblank] at h

/-! ## Secret words -/

theorem Spells.exists_of_mem {cs : List Char} (h : Spells cs w) (hc : c ∈ cs) : ∃ x ∈ w, x ∈ Text.foldOrbit c := by
  induction cs generalizing w with
  | nil => cases hc
  | cons d cs ih =>
    obtain ⟨x, v, rfl, hx, hv⟩ := h
    rcases List.mem_cons.1 hc with rfl | hc
    · exact ⟨x, List.mem_cons_self, hx⟩
    · obtain ⟨y, hy, hyc⟩ := ih hv hc
      exact ⟨y, List.mem_cons_of_mem _ hy, hyc⟩

theorem spells_append {cs ds : List Char} :
    Spells (cs ++ ds) w ↔ ∃ u v, w = u ++ v ∧ Spells cs u ∧ Spells ds v := by
  induction cs generalizing w with
  | nil =>
    constructor
    · exact fun h => ⟨[], w, rfl, rfl, h⟩
    · rintro ⟨_, v, rfl, rfl, hv⟩
      exact hv
  | cons c cs ih =>
    simp only [List.cons_append, Spells, ih]
    constructor
    · rintro ⟨x, _, rfl, hx, u, v, rfl, hu, hv⟩
      exact ⟨x :: u, v, rfl, ⟨x, u, rfl, hx, hu⟩, hv⟩
    · rintro ⟨_, v, rfl, ⟨x, u, rfl, hx, hu⟩, hv⟩
      exact ⟨x, u ++ v, rfl, hx, u, v, rfl, hu, hv⟩

theorem accepts_folded_seqs {cs : List Char} {ps : List Pattern} :
    (seqs (cs.map folded ++ ps)).Accepts prev w next ↔
      ∃ u v, w = u ++ v ∧ Spells cs u ∧ (seqs ps).Accepts (u.getLast?.or prev) v next := by
  have hfolded : ∀ {prev w next}, (seqs (cs.map folded)).Accepts prev w next ↔ Spells cs w := accepts_folded
  simp only [accepts_seqs_append, hfolded]

/-- The spellings of the secret words, letter case apart. -/
def secretWords : List String :=
  ["token", "secret", "passwd", "password", "credential", "authorization", "apikey", "api_key", "api-key",
   "accesskey", "access_key", "access-key", "privatekey", "private_key", "private-key"]

/-- A word that makes an assigned value a secret. -/
def IsSecretWord (w : List Char) : Prop := ∃ word ∈ secretWords, Spells word.toList w

theorem accepts_joined {first second : String} : (joined first second).Accepts prev w next ↔
    Spells (first.toList ++ second.toList) w ∨ Spells (first.toList ++ '_' :: second.toList) w ∨
      Spells (first.toList ++ '-' :: second.toList) w := by
  have hsecond : ∀ {prev w next}, (seqs (second.toList.map folded)).Accepts prev w next ↔
      Spells second.toList w := accepts_folded
  have hjoiner : ∀ x, joiner.contains x ↔ x = '_' ∨ x = '-' := by
    simp [joiner, CharSet.unions, CharSet.contains, contains_single]
  have hunder : ∀ x, x ∈ Text.foldOrbit '_' ↔ x = '_' := by
    rw [show Text.foldOrbit '_' = ['_'] by decide]
    simp
  have hhyphen : ∀ x, x ∈ Text.foldOrbit '-' ↔ x = '-' := by
    rw [show Text.foldOrbit '-' = ['-'] by decide]
    simp
  rw [joined, List.append_assoc, accepts_folded_seqs]
  simp only [List.singleton_append, accepts_seqs_cons, accepts_opt, hsecond, spells_append, Spells, hunder, hhyphen]
  constructor
  · rintro ⟨u, _, rfl, hu, _, v, rfl, rfl | ⟨x, rfl, hx⟩, hv⟩
    · exact .inl ⟨u, v, rfl, hu, hv⟩
    · rcases (hjoiner x).1 hx with rfl | rfl
      · exact .inr (.inl ⟨u, _, rfl, hu, _, v, rfl, rfl, hv⟩)
      · exact .inr (.inr ⟨u, _, rfl, hu, _, v, rfl, rfl, hv⟩)
  · rintro (⟨u, v, rfl, hu, hv⟩ | ⟨u, _, rfl, hu, _, v, rfl, rfl, hv⟩ | ⟨u, _, rfl, hu, _, v, rfl, rfl, hv⟩)
    · exact ⟨u, v, rfl, hu, [], v, rfl, .inl rfl, hv⟩
    · exact ⟨u, _, rfl, hu, ['_'], v, rfl, .inr ⟨'_', rfl, (hjoiner _).2 (.inl rfl)⟩, hv⟩
    · exact ⟨u, _, rfl, hu, ['-'], v, rfl, .inr ⟨'-', rfl, (hjoiner _).2 (.inr rfl)⟩, hv⟩

theorem accepts_foldedLiteral {text : String} : (foldedLiteral text).Accepts prev w next ↔ Spells text.toList w :=
  accepts_folded

theorem accepts_passwordWord :
    (seqs ("passw".toList.map folded ++ [(foldedLiteral "or").opt true, folded 'd'])).Accepts prev w next ↔
      Spells "passwd".toList w ∨ Spells "password".toList w := by
  have hd : ∀ {prev w next}, (folded 'd').Accepts prev w next ↔ Spells ['d'] w :=
    fun {prev w next} => show (seqs (['d'].map fun c => .one (CharSet.single c).fold)).Accepts prev w next ↔ _ from
      accepts_folded
  rw [accepts_folded_seqs, show "passwd".toList = "passw".toList ++ ['d'] from rfl,
    show "password".toList = "passw".toList ++ ("or".toList ++ ['d']) from rfl]
  simp only [accepts_seqs_cons, accepts_seqs_nil, accepts_opt, accepts_foldedLiteral, hd, spells_append]
  constructor
  · rintro ⟨u, _, rfl, hu, _, _, rfl, rfl | hor, v, _, rfl, hv, rfl⟩
    · exact .inl ⟨u, v, by simp, hu, hv⟩
    · exact .inr ⟨u, _, rfl, hu, _, v, by simp, hor, hv⟩
  · rintro (⟨u, v, rfl, hu, hv⟩ | ⟨u, _, rfl, hu, a, v, rfl, hor, hv⟩)
    · exact ⟨u, v, rfl, hu, [], v, rfl, .inl rfl, v, [], (List.append_nil v).symm, hv, rfl⟩
    · exact ⟨u, _, rfl, hu, a, v, rfl, .inr hor, v, [], (List.append_nil v).symm, hv, rfl⟩

theorem accepts_secretWord : secretWord.Accepts prev w next ↔ IsSecretWord w := by
  simp only [secretWord, alts, accepts_alt, accepts_foldedLiteral, accepts_passwordWord, accepts_joined, IsSecretWord,
    secretWords, List.mem_cons, List.not_mem_nil, or_false, exists_eq_or_imp, exists_eq_left, or_assoc]
  rfl

/-- The letters and joiners of the words that the patterns know. -/
def wordLetters : List Char := "abcdefghijklmnopqrstuvwxyz_-".toList

theorem mem_wordLetters : ∀ word ∈ "bearer" :: "basic" :: secretWords, ∀ c ∈ word.toList, c ∈ wordLetters := by
  have hall : ("bearer" :: "basic" :: secretWords).all fun word => word.toList.all (wordLetters.contains ·) := by decide
  simpa using hall

theorem foldOrbit_wordLetters : ∀ c ∈ wordLetters,
    c ∈ Text.foldOrbit c ∧ ∀ x ∈ Text.foldOrbit c, nameChar.contains x := by
  have hall : wordLetters.all fun c =>
      (Text.foldOrbit c).contains c && (Text.foldOrbit c).all (nameChar.contains ·) := by decide +kernel
  simpa using hall

theorem Spells.over {cs : List Char} (hcs : ∀ c ∈ cs, c ∈ wordLetters) (h : Spells cs w) : Over nameChar w := by
  intro x hx
  obtain ⟨c, hc, hxc⟩ := h.exists_mem hx
  exact (foldOrbit_wordLetters c (hcs c hc)).2 x hxc

theorem spells_self {cs : List Char} (hcs : ∀ c ∈ cs, c ∈ wordLetters) : Spells cs cs := by
  induction cs with
  | nil => rfl
  | cons c cs ih =>
    obtain ⟨hc, hcs⟩ := List.forall_mem_cons.1 hcs
    exact ⟨c, cs, rfl, (foldOrbit_wordLetters c hc).1, ih hcs⟩

theorem IsSecretWord.over (h : IsSecretWord w) : Over nameChar w := by
  obtain ⟨word, hword, hw⟩ := h
  exact hw.over (mem_wordLetters word (.tail _ (.tail _ hword)))

theorem isSecretWord_self {word : String} (h : word ∈ secretWords) : IsSecretWord word.toList :=
  ⟨word, h, spells_self (mem_wordLetters word (.tail _ (.tail _ h)))⟩

theorem IsScheme.over (h : IsScheme w) : Over nameChar w :=
  h.elim (fun h => h.over (mem_wordLetters _ (.head _))) fun h => h.over (mem_wordLetters _ (.tail _ (.head _)))

/-- Every secret word has a letter that the word of no authorization scheme has. -/
theorem IsSecretWord.not_infix {scheme : List Char} (h : IsSecretWord w) (hscheme : IsScheme scheme) :
    ¬w <:+: scheme := by
  have hletter : secretWords.all fun word => "tpk".toList.any (word.toList.contains ·) := by decide
  have hapart : "tpk".toList.all fun c => ("bearer".toList ++ "basic".toList).all fun d =>
      (Text.foldOrbit c).all fun x => !(Text.foldOrbit d).contains x := by decide +kernel
  obtain ⟨word, hword, hw⟩ := h
  obtain ⟨c, hc, hcword⟩ := List.any_eq_true.1 (List.all_eq_true.1 hletter word hword)
  obtain ⟨x, hx, hxc⟩ := hw.exists_of_mem (List.contains_iff_mem.1 hcword)
  intro hpart
  obtain ⟨d, hd, hxd⟩ := hscheme.exists_mem (hpart.subset hx)
  have hdisjoint := List.all_eq_true.1 (List.all_eq_true.1 (List.all_eq_true.1 hapart c hc) d hd) x hxc
  simp [hxd] at hdisjoint

/-! ## Sites -/

/-- A quote or nothing. -/
def IsQuote (w : List Char) : Prop := w = [] ∨ ∃ x, w = [x] ∧ quoteMark.contains x

/-- What stands between a name and its value: a sign with blanks around it, behind a closing quote and before an
opening one. -/
def IsSeparator (w : List Char) : Prop :=
  ∃ closing before sign after opening, w = closing ++ (before ++ sign :: (after ++ opening)) ∧
    IsQuote closing ∧ Over .blank before ∧ signMark.contains sign ∧ Over .blank after ∧ IsQuote opening

/-- A name with a secret word in it. -/
def IsSecretName (w : List Char) : Prop := Over nameChar w ∧ ∃ word, IsSecretWord word ∧ word <:+: w

/-- The place of an assigned value: a secret name and a separator. -/
def IsSite (w : List Char) : Prop := ∃ name separator, w = name ++ separator ∧ IsSecretName name ∧ IsSeparator separator

theorem IsQuote.over (h : IsQuote w) : Over quoteMark w := by
  rcases h with rfl | ⟨x, rfl, hx⟩
  · exact over_nil
  · exact over_cons.2 ⟨hx, over_nil⟩

theorem IsSecretWord.ne_nil (h : IsSecretWord w) : w ≠ [] := by
  have hall : ∀ word ∈ secretWords, word.toList ≠ [] := by decide
  obtain ⟨word, hword, hw⟩ := h
  obtain ⟨c, hc⟩ := List.exists_mem_of_ne_nil _ (hall word hword)
  obtain ⟨x, hx, -⟩ := hw.exists_of_mem hc
  exact List.ne_nil_of_mem hx

theorem IsSecretName.ne_nil (h : IsSecretName w) : w ≠ [] := by
  obtain ⟨-, word, hword, hinfix⟩ := h
  rintro rfl
  exact hword.ne_nil (List.infix_nil.1 hinfix)

theorem IsSite.head (h : IsSite w) : ∃ x v, w = x :: v ∧ nameChar.contains x := by
  obtain ⟨name, separator, rfl, hname, -⟩ := h
  obtain ⟨x, name, rfl⟩ := List.exists_cons_of_ne_nil hname.ne_nil
  exact ⟨x, name ++ separator, rfl, (over_cons.1 hname.1).1⟩

theorem IsSeparator.over (h : IsSeparator w) : Over separatorChar w := by
  obtain ⟨closing, before, sign, after, opening, rfl, hclosing, hbefore, hsign, hafter, hopening⟩ := h
  have hquote : ∀ {w}, IsQuote w → Over separatorChar w :=
    fun h x hx => contains_separatorChar.2 (.inl (h.over x hx))
  have hblank : ∀ {w}, Over .blank w → Over separatorChar w :=
    fun h x hx => contains_separatorChar.2 (.inr (.inl (h x hx)))
  exact over_append.2 ⟨hquote hclosing, over_append.2 ⟨hblank hbefore, over_cons.2
    ⟨contains_separatorChar.2 (.inr (.inr hsign)), over_append.2 ⟨hblank hafter, hquote hopening⟩⟩⟩⟩

theorem IsSeparator.exists_sign (h : IsSeparator w) : ∃ x ∈ w, signMark.contains x := by
  obtain ⟨_, _, sign, _, _, rfl, -, -, hsign, -⟩ := h
  exact ⟨sign, by simp, hsign⟩

/-- What may not follow a separator: a quote and a blank would still belong to it. -/
def padding : CharSet := .union quoteMark .blank

theorem stops_padding {o : Option Char} (h : Stops padding o) : Stops quoteMark o ∧ Stops .blank o := by
  have hsplit : ∀ x, padding.contains x = false → quoteMark.contains x = false ∧ CharSet.blank.contains x = false :=
    fun x hx => Bool.or_eq_false_iff.1 hx
  exact ⟨fun x hx => (hsplit x (h x hx)).1, fun x hx => (hsplit x (h x hx)).2⟩

theorem IsSeparator.unique {u v x y : List Char} (hu : IsSeparator u) (hv : IsSeparator v)
    (hx : Stops padding x.head?) (hy : Stops padding y.head?) (h : u ++ x = v ++ y) : u = v ∧ x = y := by
  have hquoteBlank : ∀ c, quoteMark.contains c → CharSet.blank.contains c = false := by
    intro c hc
    rcases contains_quoteMark.1 hc with rfl | rfl <;> decide
  have hblankQuote : ∀ c, CharSet.blank.contains c → quoteMark.contains c = false :=
    fun c hc => Bool.eq_false_iff.2 fun hq => by simp [hquoteBlank c hq] at hc
  have hsignApart : ∀ c, signMark.contains c → quoteMark.contains c = false ∧ CharSet.blank.contains c = false := by
    intro c hc
    rcases contains_signMark.1 hc with rfl | rfl <;> decide
  -- Each of the parts is a run that the next part ends.
  have hclose : ∀ {before z : List Char} {sign}, Over .blank before → signMark.contains sign →
      Stops quoteMark (before ++ sign :: z).head? :=
    fun hb hs => .append (fun c hc => hblankQuote c (hb c hc)) (.some (hsignApart _ hs).1)
  have hsign : ∀ {z : List Char} {sign}, signMark.contains sign → Stops .blank (sign :: z).head? :=
    fun hs => .some (hsignApart _ hs).2
  have hopen : ∀ {opening z : List Char}, IsQuote opening → Stops padding z.head? → Stops .blank (opening ++ z).head? :=
    fun ho hz => .append (fun c hc => hquoteBlank c (ho.over c hc)) (stops_padding hz).2
  obtain ⟨q₁, b₁, s₁, c₁, r₁, rfl, hq₁, hb₁, hs₁, hc₁, hr₁⟩ := hu
  obtain ⟨q₂, b₂, s₂, c₂, r₂, rfl, hq₂, hb₂, hs₂, hc₂, hr₂⟩ := hv
  simp only [List.append_assoc, List.cons_append] at h
  obtain ⟨rfl, hbehind⟩ := over_unique hq₁.over hq₂.over (hclose hb₁ hs₁) (hclose hb₂ hs₂) h
  obtain ⟨rfl, hfrom⟩ := over_unique hb₁ hb₂ (hsign hs₁) (hsign hs₂) hbehind
  obtain ⟨rfl, hafter⟩ := List.cons.inj hfrom
  obtain ⟨rfl, hlast⟩ := over_unique hc₁ hc₂ (hopen hr₁ hx) (hopen hr₂ hy) hafter
  obtain ⟨rfl, rfl⟩ := over_unique hr₁.over hr₂.over (stops_padding hx).1 (stops_padding hy).1 hlast
  exact ⟨rfl, rfl⟩

/-- The patterns of a site. -/
def siteItems : List Pattern :=
  [wordBoundary, (Pattern.one nameChar).star false, secretWord, (Pattern.one nameChar).star true,
    (Pattern.one quoteMark).opt true, (Pattern.one .blank).star true, .one signMark, (Pattern.one .blank).star true,
    (Pattern.one quoteMark).opt true]

theorem accepts_site : (seqs siteItems).Accepts prev w next ↔
    IsSite w ∧ ¬(IsWordAt prev ↔ IsWordAt w.head?) := by
  have hquote : ∀ {prev w next}, ((Pattern.one quoteMark).opt true).Accepts prev w next ↔ IsQuote w := accepts_opt
  have hone : ∀ {prev w next}, (Pattern.one signMark).Accepts prev w next ↔ ∃ x, w = [x] ∧ signMark.contains x :=
    Iff.rfl
  have hitems : ∀ {prev w next}, (seqs siteItems.tail).Accepts prev w next ↔ IsSite w := by
    intro prev w next
    simp only [siteItems, List.tail_cons, accepts_seqs_cons, accepts_seqs_nil, accepts_secretWord, accepts_star_one,
      hquote, hone]
    constructor
    · rintro ⟨front, _, rfl, hfront, word, _, rfl, hword, back, _, rfl, hback, closing, _, rfl, hclosing, before, _,
        rfl, hbefore, _, _, rfl, ⟨sign, rfl, hsign⟩, after, _, rfl, hafter, opening, _, rfl, hopening, rfl⟩
      refine ⟨front ++ (word ++ back), closing ++ (before ++ sign :: (after ++ opening)), by simp,
        ⟨?_, word, hword, ?_⟩, closing, before, sign, after, opening, rfl, hclosing, hbefore, hsign, hafter, hopening⟩
      · exact over_append.2 ⟨hfront, over_append.2 ⟨hword.over, hback⟩⟩
      · exact ⟨front, back, List.append_assoc ..⟩
    · rintro ⟨_, _, rfl, ⟨hname, word, hword, front, back, rfl⟩, closing, before, sign, after, opening, rfl, hclosing,
        hbefore, hsign, hafter, hopening⟩
      rw [List.append_assoc, over_append, over_append] at hname
      exact ⟨front, _, by simp, hname.1, word, _, rfl, hword, back, _, rfl, hname.2.2, closing, _, rfl, hclosing,
        before, _, rfl, hbefore, [sign], _, rfl, ⟨sign, rfl, hsign⟩, after, _, rfl, hafter, opening, [],
        (List.append_nil opening).symm, hopening, rfl⟩
  rw [siteItems, wordBoundary, accepts_assert_seqs, isTrue_boundary, and_comm]
  refine (and_congr_left' hitems).trans (and_congr_right fun hsite => ?_)
  obtain ⟨x, v, rfl, -⟩ := hsite.head
  rfl

theorem IsSeparator.stops (h : IsSeparator w) : Stops nameChar (w ++ rest).head? := by
  obtain ⟨x, hx, -⟩ := h.exists_sign
  obtain ⟨y, w, rfl⟩ := List.exists_cons_of_ne_nil (List.ne_nil_of_mem hx)
  exact .some (not_nameChar_of_separatorChar (h.over y List.mem_cons_self))

/-- Where a site begins inside another one, it is the rest of it; else it begins behind it. -/
theorem IsSite.cases {s t u y z : List Char} (hs : IsSite s) (ht : IsSite t) (hz : Stops padding z.head?)
    (hy : Stops padding y.head?) (h : u ++ (s ++ z) = t ++ y) :
    (t = u ++ s ∧ z = y) ∨ ∃ e, u = t ++ e ∧ y = e ++ (s ++ z) := by
  obtain ⟨name, separator, rfl, hname, hsep⟩ := hs
  obtain ⟨name', separator', rfl, hname', hsep'⟩ := ht
  obtain ⟨x, name, rfl⟩ := List.exists_cons_of_ne_nil hname.ne_nil
  have hx := (over_cons.1 hname.1).1
  have hmem : ∀ {e : List Char}, x ∈ e → ¬Over separatorChar e := fun hxe hover => by
    simp [not_nameChar_of_separatorChar (hover x hxe)] at hx
  rw [List.append_assoc, List.append_assoc] at h
  rcases List.append_eq_append_iff.1 h with ⟨e, rfl, hrest⟩ | ⟨e, rfl, hrest⟩
  · -- The name is the rest of the other one, since both go on up to a separator.
    obtain ⟨rfl, hseps⟩ := over_unique hname.1 (over_append.1 hname'.1).2 hsep.stops hsep'.stops hrest
    obtain ⟨rfl, rfl⟩ := hsep.unique hsep' hz hy hseps
    exact .inl ⟨by simp, rfl⟩
  · rcases List.append_eq_append_iff.1 hrest with ⟨d, rfl, htail⟩ | ⟨d, hd, htail⟩
    · exact .inr ⟨d, by simp, by simpa using htail⟩
    · cases d with
      | nil => exact .inr ⟨[], by simp [hd], by simpa using htail.symm⟩
      | cons y d =>
        simp only [List.cons_append, List.cons.injEq] at htail
        obtain ⟨rfl, -⟩ := htail
        exact absurd hsep'.over (hmem (by simp [hd]))

/-! ## The parts of a match -/

/-- How a match lies in a text: a site, perhaps a scheme with its blanks in front of the value, and the value, which
goes on as far as it can. A scheme is passed over wherever a value can stand behind it. -/
structure Assigned (prev : Option Char) (rest site front value : List Char) : Prop where
  isSite : IsSite site
  edge : ¬(IsWordAt prev ↔ IsWordAt site.head?)
  isFront : front = [] ∨ IsBearerFront front
  ne_nil : value ≠ []
  over_value : Over (.compl valueEnd) value
  stops : Stops (.compl valueEnd) rest.head?
  passes : front = [] → ∀ other after, value ++ rest = other ++ after → IsBearerFront other →
    Stops (.compl valueEnd) after.head?

/-- The pattern of a value. -/
def valueRun : Pattern := (Pattern.one (.compl valueEnd)).plus true

/-- The patterns behind a site. -/
def valueItems : List Pattern :=
  [(Pattern.seqs [authScheme, (Pattern.one .blank).plus true]).opt true, .group "secret" valueRun]

theorem assignment_eq : assignment = seqs (siteItems ++ valueItems) := rfl

variable {site front value : List Char}

theorem IsBearerFront.ne_nil (h : IsBearerFront w) : w ≠ [] := by
  obtain ⟨scheme, blanks, rfl, -, hne, -⟩ := h
  exact List.append_ne_nil_of_right_ne_nil scheme hne

theorem accepts_valueRun : valueRun.Accepts prev w next ↔ w ≠ [] ∧ Over (.compl valueEnd) w := accepts_plus_one

theorem accepts_schemeFront : (seqs [authScheme, (Pattern.one .blank).plus true]).Accepts prev w next ↔
    IsBearerFront w := by
  simp only [accepts_seqs_cons, accepts_authScheme, accepts_plus_one, accepts_seqs_nil, IsBearerFront]
  constructor
  · rintro ⟨scheme, _, rfl, hscheme, blanks, _, rfl, hblanks, rfl⟩
    exact ⟨scheme, blanks, by simp, hscheme, hblanks⟩
  · rintro ⟨scheme, blanks, rfl, hscheme, hblanks⟩
    exact ⟨scheme, _, rfl, hscheme, blanks, [], (List.append_nil blanks).symm, hblanks, rfl⟩

theorem accepts_valueItems (hfront : front = [] ∨ IsBearerFront front) (hne : value ≠ [])
    (hover : Over (.compl valueEnd) value) : (seqs valueItems).Accepts prev (front ++ value) next := by
  refine accepts_seqs_cons.2 ⟨front, value, rfl, ?_, accepts_valueRun.2 ⟨hne, hover⟩⟩
  exact accepts_opt.2 (hfront.imp_right accepts_schemeFront.2)

theorem Assigned.accepts (h : Assigned prev rest site front value) :
    assignment.Accepts prev (site ++ (front ++ value)) next := by
  have hsite : ∀ next, (seqs siteItems).Accepts prev site next := fun next => accepts_site.2 ⟨h.isSite, h.edge⟩
  have hvalue : ∀ prev, (seqs valueItems).Accepts prev (front ++ value) next :=
    fun prev => accepts_valueItems h.isFront h.ne_nil h.over_value
  rw [assignment_eq]
  exact accepts_seqs_append.2 ⟨site, _, rfl, hsite _, hvalue _⟩

theorem run_value {d stop : Cursor} (h : (group "secret" valueRun).run some d = some stop) :
    ∃ value, d.rest = value ++ stop.rest ∧ value ≠ [] ∧ Over (.compl valueEnd) value ∧
      Stops (.compl valueEnd) stop.rest.head? ∧ stop.groups.lookup "secret" = some (d.pos, d.pos + value.length) := by
  obtain ⟨value, d', hreads, hne, hover, hstops, hstop⟩ := run_plus_greedy (fun _ => rfl) h
  cases hstop
  exact ⟨value, hreads.rest, hne, hover, hstops, by simp [hreads.pos]⟩

theorem stops_of_run {d : Cursor} (h : (seqs [authScheme, (Pattern.one .blank).plus true]).run
    ((group "secret" valueRun).run some) d = none) {after : List Char} (hrest : d.rest = front ++ after)
    (hfront : IsBearerFront front) : Stops (.compl valueEnd) after.head? := by
  intro x hx
  rw [← Bool.not_eq_true]
  intro hvalue
  obtain ⟨after, rfl⟩ := List.head?_eq_some_iff.1 hx
  have hsome : ((seqs [authScheme, (Pattern.one .blank).plus true]).run
      ((group "secret" valueRun).run some) d).isSome := by
    refine run_complete _ _ d front (x :: after) hrest (accepts_schemeFront.2 hfront) fun d' hd' => ?_
    have hrest' : d'.rest = [x] ++ after := List.append_cancel_left (hd'.rest.symm.trans hrest)
    exact run_complete _ _ d' [x] after hrest' (accepts_valueRun.2 ⟨by simp, by simpa using hvalue⟩) fun _ _ => rfl
  simp [h] at hsome

theorem ne_nil_of_accepts_assignment (h : assignment.Accepts prev w next) : w ≠ [] := by
  rw [assignment_eq] at h
  obtain ⟨site, v, rfl, hsite, -⟩ := accepts_seqs_append.1 h
  obtain ⟨x, site, rfl, -⟩ := (accepts_site.1 hsite).1.head
  exact List.cons_ne_nil _ _

theorem assignment_hit {text : List Char} {hit : Hit} (h : assignment.matchAt prev text = some hit)
    (htext : text = hit.text ++ rest) : ∃ site front value, Assigned prev rest site front value ∧
      assignmentRule.Aims hit (site ++ front) value [] := by
  obtain ⟨stop, hrun, htext', hgroups, -⟩ := matchAt_eq_some h
  obtain rfl : rest = stop.rest := List.append_cancel_left (htext.symm.trans htext')
  rw [assignment_eq, run_seqs_append] at hrun
  obtain ⟨site, d, hsite, hsiteAccepts, hrun⟩ := run_sound _ _ _ _ hrun
  obtain ⟨hisSite, hedge⟩ := accepts_site.1 hsiteAccepts
  have hd : d.pos = site.length := hsite.pos.trans (Nat.zero_add _)
  have hrest : text = site ++ d.rest := hsite.rest
  rcases orElse_eq_some.1 hrun with hrun | ⟨hnone, hrun⟩
  · obtain ⟨front, d', hfront, hfrontAccepts, hrun⟩ := run_sound _ _ _ _ hrun
    obtain ⟨value, hvalue, hne, hover, hstops, hgroup⟩ := run_value hrun
    have hisFront : IsBearerFront front := accepts_schemeFront.1 hfrontAccepts
    refine ⟨site, front, value, ⟨hisSite, hedge, .inr hisFront, hne, hover, hstops, fun hnil => ?_⟩, ?_, ?_⟩
    · exact absurd hnil hisFront.ne_nil
    · rw [hfront.rest, hvalue] at hrest
      exact List.append_cancel_right (htext.symm.trans (by simpa using hrest))
    · show hit.groups.lookup "secret" = _
      rw [hgroups, hgroup, hfront.pos, hd, List.length_append]
  · obtain ⟨value, hvalue, hne, hover, hstops, hgroup⟩ := run_value hrun
    refine ⟨site, [], value, ⟨hisSite, hedge, .inl rfl, hne, hover, hstops, fun _ other after h hfront => ?_⟩, ?_, ?_⟩
    · exact stops_of_run hnone (hvalue.trans h) hfront
    · rw [hvalue] at hrest
      exact List.append_cancel_right (htext.symm.trans (by simpa using hrest))
    · show hit.groups.lookup "secret" = _
      rw [hgroups, hgroup, hd, List.append_nil]

/-! ## One way of reading -/

theorem stops_blank_of_value (hne : value ≠ []) (hover : Over (.compl valueEnd) value) :
    Stops .blank (value ++ rest).head? := by
  obtain ⟨x, value, rfl⟩ := List.exists_cons_of_ne_nil hne
  exact .some (not_blank_of_value (hover x List.mem_cons_self))

theorem stops_of_blanks {S : CharSet} {blanks z : List Char} (hne : blanks ≠ []) (hblanks : Over .blank blanks)
    (hS : ∀ c, Text.isBlank c → S.contains c = false) : Stops S (blanks ++ z).head? := by
  obtain ⟨x, blanks, rfl⟩ := List.exists_cons_of_ne_nil hne
  exact .some (hS x (hblanks x List.mem_cons_self))

theorem not_nameChar_of_blank (h : Text.isBlank c) : nameChar.contains c = false :=
  not_nameChar_of_valueEnd (valueEnd_of_blank h)

theorem not_value_of_blank (h : Text.isBlank c) : (CharSet.compl valueEnd).contains c = false := by
  simp [CharSet.contains, valueEnd_of_blank h]

theorem over_value_of_nameChar (h : Over nameChar w) : Over (.compl valueEnd) w :=
  fun x hx => by simp [CharSet.contains, not_valueEnd_of_nameChar (h x hx)]

theorem IsBearerFront.unique {u v x y : List Char} (hu : IsBearerFront u) (hv : IsBearerFront v)
    (hx : Stops .blank x.head?) (hy : Stops .blank y.head?) (h : u ++ x = v ++ y) : u = v ∧ x = y := by
  obtain ⟨s₁, b₁, rfl, hs₁, hne₁, hb₁⟩ := hu
  obtain ⟨s₂, b₂, rfl, hs₂, hne₂, hb₂⟩ := hv
  rw [List.append_assoc, List.append_assoc] at h
  obtain ⟨rfl, hblanks⟩ := over_unique hs₁.over hs₂.over (stops_of_blanks hne₁ hb₁ fun _ => not_nameChar_of_blank)
    (stops_of_blanks hne₂ hb₂ fun _ => not_nameChar_of_blank) h
  obtain ⟨rfl, rfl⟩ := over_unique hb₁ hb₂ hx hy hblanks
  exact ⟨rfl, rfl⟩

theorem IsScheme.eq_value {scheme blanks after : List Char} (h : IsScheme scheme) (hne : blanks ≠ [])
    (hblanks : Over .blank blanks) (hvalue : Over (.compl valueEnd) value) (hrest : Stops (.compl valueEnd) rest.head?)
    (heq : value ++ rest = scheme ++ (blanks ++ after)) : value = scheme ∧ rest = blanks ++ after :=
  over_unique hvalue (over_value_of_nameChar h.over) hrest (stops_of_blanks hne hblanks fun _ => not_value_of_blank) heq

namespace Assigned

variable {prev' : Option Char} {rest' site' front' value' u : List Char}

/-- Behind a site there is one way of reading. -/
theorem unique (h : Assigned prev rest site front value) (h' : Assigned prev' rest' site' front' value')
    (heq : front ++ (value ++ rest) = front' ++ (value' ++ rest')) :
    front = front' ∧ value = value' ∧ rest = rest' := by
  have hvalue : ∀ {prev rest site front value}, Assigned prev rest site front value →
      ¬Stops (.compl valueEnd) (value ++ rest).head? := by
    intro prev rest site front value h hstops
    obtain ⟨x, value, rfl⟩ := List.exists_cons_of_ne_nil h.ne_nil
    have := hstops x rfl
    simp [h.over_value x List.mem_cons_self] at this
  -- A match that passes no scheme over has no value behind one, so both pass the same scheme over or none.
  rcases h.isFront with rfl | hfront <;> rcases h'.isFront with rfl | hfront'
  · exact ⟨rfl, over_unique h.over_value h'.over_value h.stops h'.stops heq⟩
  · exact absurd (h.passes rfl front' _ heq hfront') (hvalue h')
  · exact absurd (h'.passes rfl front _ heq.symm hfront) (hvalue h)
  · obtain ⟨rfl, hvalues⟩ := hfront.unique hfront' (stops_blank_of_value h.ne_nil h.over_value)
      (stops_blank_of_value h'.ne_nil h'.over_value) heq
    exact ⟨rfl, over_unique h.over_value h'.over_value h.stops h'.stops hvalues⟩

end Assigned

/-! ## Where no site begins -/

/-- No site begins in the word of a scheme. -/
theorem IsScheme.site_behind {e y z : List Char} (h : IsScheme w) (hz : Stops nameChar z.head?) (hsite : IsSite site)
    (heq : w ++ z = e ++ (site ++ y)) : ∃ d, e = w ++ d ∧ z = d ++ (site ++ y) := by
  rcases List.append_eq_append_iff.1 heq with ⟨d, rfl, hd⟩ | ⟨d, rfl, hd⟩
  · exact ⟨d, rfl, hd⟩
  · obtain ⟨name, separator, rfl, ⟨hname, word, hword, hpart⟩, hsep⟩ := hsite
    rw [List.append_assoc] at hd
    obtain ⟨rfl, -⟩ := over_unique hname (over_append.1 h.over).2 hsep.stops hz hd
    exact absurd (hpart.trans (List.suffix_append e name).isInfix) (hword.not_infix h)

theorem IsBearerFront.site_behind {e y z : List Char} (h : IsBearerFront w) (hsite : IsSite site)
    (heq : w ++ z = e ++ (site ++ y)) : ∃ d, e = w ++ d ∧ z = d ++ (site ++ y) := by
  obtain ⟨scheme, blanks, rfl, hscheme, hne, hblanks⟩ := h
  rw [List.append_assoc] at heq
  obtain ⟨d, rfl, hd⟩ := hscheme.site_behind (stops_of_blanks hne hblanks fun _ => not_nameChar_of_blank) hsite heq
  rcases List.append_eq_append_iff.1 hd with ⟨d', rfl, hd'⟩ | ⟨d', rfl, hd'⟩
  · exact ⟨d', (List.append_assoc ..).symm, hd'⟩
  · cases d' with
    | nil => exact ⟨[], by simp, by simpa using hd'.symm⟩
    | cons x d' =>
      obtain ⟨_, _, rfl, hx⟩ := hsite.head
      simp only [List.cons_append, List.cons.injEq] at hd'
      obtain ⟨rfl, -⟩ := hd'
      have hblank := hblanks _ (List.mem_append_right d List.mem_cons_self)
      simp [not_nameChar_of_blank hblank] at hx

theorem not_padding_of_value (h : (CharSet.compl valueEnd).contains c) : padding.contains c = false := by
  refine Bool.eq_false_iff.2 fun hpadding => ?_
  have hend : valueEnd.contains c := by
    rcases Bool.or_eq_true_iff.1 hpadding with hc | hc
    · rcases contains_quoteMark.1 hc with rfl | rfl <;> decide
    · exact valueEnd_of_blank hc
  simp [CharSet.contains, hend] at h

theorem IsBearerFront.stops_padding {z : List Char} (h : IsBearerFront w) : Stops padding (w ++ z).head? := by
  obtain ⟨scheme, blanks, rfl, hscheme, -⟩ := h
  obtain ⟨x, scheme, rfl, -⟩ := hscheme.head
  exact .some (not_padding_of_value (over_value_of_nameChar hscheme.over x List.mem_cons_self))

namespace Assigned

variable {prev' : Option Char} {rest' site' front' value' u z : List Char}

theorem stops_padding (h : Assigned prev rest site front value) : Stops padding (front ++ (value ++ z)).head? := by
  rcases h.isFront with rfl | hfront
  · obtain ⟨x, value, rfl⟩ := List.exists_cons_of_ne_nil h.ne_nil
    exact .some (not_padding_of_value (h.over_value x List.mem_cons_self))
  · exact hfront.stops_padding

theorem stops_padding_front (h : Assigned prev rest site front value) : Stops padding front.head? := by
  rcases h.isFront with rfl | hfront
  · exact .nil
  · simpa using hfront.stops_padding (z := [])

/-- A match whose value is the word of a scheme has the same parts as one that begins in it; else the other one
begins behind it. -/
theorem cases (h : Assigned prev rest site front value) (h' : Assigned prev' rest' site' front' value')
    (hscheme : IsScheme value')
    (heq : u ++ (site ++ (front ++ (value ++ rest))) = site' ++ (front' ++ (value' ++ rest'))) :
    value = value' ∨ ∃ e, u = site' ++ (front' ++ (value' ++ e)) := by
  rcases h.isSite.cases h'.isSite h.stops_padding h'.stops_padding heq with ⟨-, hbehind⟩ | ⟨e, rfl, hbehind⟩
  · exact .inl (h.unique h' hbehind).2.1
  · -- A site behind the other one begins neither in its front nor in the scheme that is its value.
    have hstops : Stops nameChar rest'.head? := by
      intro x hx
      have := h'.stops x hx
      exact not_nameChar_of_valueEnd (by simpa [CharSet.contains] using this)
    obtain ⟨d, rfl, hd⟩ : ∃ d, e = front' ++ d ∧ value' ++ rest' = d ++ (site ++ (front ++ (value ++ rest))) := by
      rcases h'.isFront with rfl | hfront'
      · exact ⟨e, rfl, hbehind⟩
      · exact hfront'.site_behind h.isSite hbehind
    obtain ⟨d, rfl, -⟩ := hscheme.site_behind hstops h.isSite hd
    exact .inr ⟨d, rfl⟩

/-- A value that lies in front of another one is the word of its scheme. -/
theorem inside_front {e : List Char} (h : Assigned prev rest site front value)
    (h' : Assigned prev' rest' site' front' value') (he : Stops (.compl valueEnd) e.head?)
    (heq : u ++ (site ++ (front ++ (value ++ e))) = site' ++ front') :
    IsScheme value ∧ e ≠ [] ∧ Over .blank e := by
  rcases h.isSite.cases h'.isSite h.stops_padding h'.stops_padding_front heq with ⟨-, hbehind⟩ | ⟨d, rfl, hbehind⟩
  · have hne : front' ≠ [] := hbehind ▸ by simp [h.ne_nil]
    have hfront' := h'.isFront.resolve_left hne
    rcases h.isFront with rfl | hfront
    · obtain ⟨scheme, blanks, rfl, hscheme, hbne, hblanks⟩ := hfront'
      have hread : value ++ e = scheme ++ (blanks ++ []) := by simpa using hbehind
      obtain ⟨rfl, rfl⟩ := hscheme.eq_value hbne hblanks h.over_value he hread
      rw [List.append_nil]
      exact ⟨hscheme, hbne, hblanks⟩
    · obtain ⟨-, hnil⟩ := hfront.unique (y := []) hfront' (stops_blank_of_value h.ne_nil h.over_value) .nil
        (by simpa using hbehind)
      simp [h.ne_nil] at hnil
  · obtain ⟨x, v, hx, -⟩ := h.isSite.head
    rcases h'.isFront with rfl | hfront'
    · simp [hx] at hbehind
    · obtain ⟨d, -, hnil⟩ := hfront'.site_behind (z := []) h.isSite (by simpa using hbehind)
      simp [hx] at hnil

/-- A match reads the same way when what follows it is shown. -/
theorem shown {as : List Atom} (h : Assigned prev (textOf as) site front value) :
    Assigned prev (shownOf as) site front value := by
  have hstops : ∀ {as : List Atom}, Stops (.compl valueEnd) (textOf as).head? →
      Stops (.compl valueEnd) (shownOf as).head? := by
    intro as h
    rcases as with _ | ⟨c | secret, as⟩
    · exact h
    · exact h
    · exact .some (by decide)
  refine ⟨h.isSite, h.edge, h.isFront, h.ne_nil, h.over_value, hstops h.stops, fun hnil other after heq hother => ?_⟩
  obtain ⟨scheme, blanks, rfl, hscheme, hne, hblanks⟩ := id hother
  rw [List.append_assoc] at heq
  obtain ⟨rfl, hbehind⟩ := hscheme.eq_value hne hblanks h.over_value (hstops h.stops) heq
  obtain ⟨as, rfl, rfl⟩ := locate_prefix hbehind (hblanks.not_mem rfl)
  exact hstops (h.passes hnil _ _ (by simp) hother)

/-- The word of a scheme is a value where no value stands behind it. -/
theorem of_scheme {scheme blanks : List Char} (hsite : IsSite site) (hedge : ¬(IsWordAt prev ↔ IsWordAt site.head?))
    (hscheme : IsScheme scheme) (hne : blanks ≠ []) (hblanks : Over .blank blanks)
    (hz : Stops (.compl valueEnd) z.head?) (hzblank : Stops .blank z.head?) :
    Assigned prev (blanks ++ z) site [] scheme := by
  have hstops : ∀ {blanks}, Over .blank blanks → Stops (.compl valueEnd) (blanks ++ z).head? :=
    fun h => .append (fun c hc => not_value_of_blank (h c hc)) hz
  obtain ⟨x, v, rfl, -⟩ := hscheme.head
  refine ⟨hsite, hedge, .inl rfl, List.cons_ne_nil x v, over_value_of_nameChar hscheme.over, hstops hblanks, ?_⟩
  rintro - _ after heq ⟨scheme', blanks', rfl, hscheme', hne', hblanks'⟩
  rw [List.append_assoc] at heq
  obtain ⟨-, hbehind⟩ := hscheme'.eq_value hne' hblanks' (over_value_of_nameChar hscheme.over) (hstops hblanks) heq
  rcases List.append_eq_append_iff.1 hbehind with ⟨d, rfl, rfl⟩ | ⟨d, rfl, rfl⟩
  · cases d with
    | nil => exact hz
    | cons y d =>
      have := hzblank y rfl
      simp [(over_append.1 hblanks').2 y List.mem_cons_self] at this
  · exact hstops (over_append.1 hblanks).2

theorem ends (h : Assigned prev rest site front value) : Ends (separatorChar.contains ·) (site ++ front) := by
  have hsite : Ends (separatorChar.contains ·) site := by
    obtain ⟨name, separator, rfl, -, hsep⟩ := h.isSite
    obtain ⟨x, hx, -⟩ := hsep.exists_sign
    exact (Ends.of_all (List.ne_nil_of_mem hx) hsep.over).append_left
  refine hsite.append fun hne => ?_
  obtain ⟨scheme, blanks, rfl, -, hbne, hblanks⟩ := h.isFront.resolve_left hne
  have hover : ∀ c ∈ blanks, separatorChar.contains c := fun c hc =>
    contains_separatorChar.2 (.inr (.inl (hblanks c hc)))
  exact (Ends.of_all hbne hover).append_left

end Assigned

theorem assigned_of_hidden {text : List Char} {as₁ as₂ : List Atom}
    (has : assignmentRule.atoms text = as₁ ++ .hidden value :: as₂) :
    ∃ as₀ site front, as₁ = as₀ ++ (site ++ front).map .kept ∧
      Assigned (textOf as₀).getLast? (textOf as₂) site front value ∧ isNotAuthScheme value := by
  obtain ⟨as₀, _, _, as₃, rfl, rfl, htile⟩ := ContentRule.tile_of_atoms has
  obtain ⟨hit, _, back, rfl, rfl, hmatch, haims, -, haccepts⟩ := htile.hidden_inv
  obtain ⟨site, front, value', h, haims'⟩ := assignment_hit hmatch rfl
  obtain ⟨rfl, rfl, rfl⟩ := haims.unique haims'
  exact ⟨as₀, site, front, rfl, h, haccepts⟩

end Periscope.Redaction
