import Periscope.Proofs.Text.Lowercase
import Periscope.Redaction.Rule

/-!
# The words of a key

The words of a mapping key together have all of its letters and digits, in small letters. A key put together from
words of ASCII letters, each in one of three spellings, falls into these words again, whatever the joints between
them. Main result: `keyWords_of_compound`.
-/

namespace Periscope.Redaction

open Text

variable {c p : Char} {prev : Option Char} {current u key rest : List Char}

/-! ## Nothing is lost -/

theorem ne_nil_of_mem_wordsFrom (key : List Char) (prev : Option Char) (current : List Char) :
    ∀ w ∈ wordsFrom prev current key, w ≠ [] := by
  fun_induction wordsFrom prev current key with
  | case1 => simp
  | case2 => simp_all
  | case3 prev current c rest _ _ ih => exact ih
  | case4 prev current c rest _ hcurrent ih => simp_all
  | case5 prev current c rest _ hstarts ih => simp_all
  | case6 prev current c rest _ _ ih => exact ih

theorem flatten_wordsFrom (key : List Char) (prev : Option Char) (current : List Char) :
    (wordsFrom prev current key).flatten = current ++ (key.filter isAlphanumeric).flatMap lowercaseChar := by
  fun_induction wordsFrom prev current key with
  | case1 => simp_all
  | case2 => simp_all
  | case3 prev current c rest hc hcurrent ih => simp_all
  | case4 prev current c rest hc hcurrent ih => simp_all
  | case5 prev current c rest hc hstarts ih => simp_all
  | case6 prev current c rest hc hstarts ih => simp_all

/-! ## ASCII letters -/

theorem of_isLower {P : Char → Bool} (hall : ∀ n < 123, (Char.ofNat n).isLower → P (Char.ofNat n)) (h : c.isLower) :
    P c := by
  have hlt : c.toNat < 123 := by
    have hle : c.toNat ≤ 'z'.toNat := UInt32.le_iff_toNat_le.1 (of_decide_eq_true (Bool.and_eq_true_iff.1 h).2)
    exact Nat.lt_succ_of_le hle
  have := hall c.toNat hlt
  rw [Char.ofNat_toNat] at this
  exact this h

theorem isAlphabetic_of_isLower : c.isLower → isAlphabetic c := of_isLower (by decide)

theorem isAlphanumeric_of_isLower (h : c.isLower) : isAlphanumeric c := by
  rw [isAlphanumeric, isAlphabetic_of_isLower h, Bool.true_or]

theorem isLowercase_of_isLower : c.isLower → isLowercase c := of_isLower (by decide)

theorem isUppercase_of_isLower (h : c.isLower) : isUppercase c = false := by
  have hall := of_isLower (P := fun c => !isUppercase c) (by decide) h
  simpa using hall

theorem lowercaseChar_of_isLower (h : c.isLower) : lowercaseChar c = [c] := by
  have hall := of_isLower (P := fun c => lowercaseChar c == [c]) (by decide) h
  simpa using hall

/-- What the splitter asks of a capital ASCII letter. -/
structure Capital (c : Char) : Prop where
  isAlphabetic : isAlphabetic c
  isUppercase : isUppercase c
  not_isLowercase : isLowercase c = false
  not_isNumeric : isNumeric c = false

theorem Capital.isAlphanumeric (h : Capital c) : isAlphanumeric c := by
  rw [Text.isAlphanumeric, h.isAlphabetic, Bool.true_or]

theorem capital_toUpper (h : c.isLower) : Capital c.toUpper := by
  have hall := of_isLower (P := fun c => isAlphabetic c.toUpper && isUppercase c.toUpper &&
    !isLowercase c.toUpper && !isNumeric c.toUpper) (by decide) h
  simp only [Bool.and_eq_true, Bool.not_eq_true'] at hall
  exact ⟨hall.1.1.1, hall.1.1.2, hall.1.2, hall.2⟩

theorem lowercaseChar_toUpper (h : c.isLower) : lowercaseChar c.toUpper = [c] := by
  have hall := of_isLower (P := fun c => lowercaseChar c.toUpper == [c]) (by decide) h
  simpa using hall

/-! ## Steps of the splitter -/

theorem wordsFrom_cons (hc : isAlphanumeric c) (hstarts : startsWord prev c rest.head? = false) :
    wordsFrom prev current (c :: rest) = wordsFrom (some c) (current ++ lowercaseChar c) rest := by
  simp [wordsFrom, hc, hstarts]

theorem wordsFrom_first (hc : isAlphanumeric c) :
    wordsFrom prev [] (c :: rest) = wordsFrom (some c) (lowercaseChar c) rest := by
  simp [wordsFrom, hc]

theorem wordsFrom_starts (hcurrent : current ≠ []) (hc : isAlphanumeric c) (hstarts : startsWord prev c rest.head?) :
    wordsFrom prev current (c :: rest) = current :: wordsFrom prev [] (c :: rest) := by
  simp [wordsFrom, hc, hstarts, hcurrent]

theorem wordsFrom_mark (hcurrent : current ≠ []) (hc : isAlphanumeric c = false) :
    wordsFrom prev current (c :: rest) = current :: wordsFrom (some c) [] rest := by
  simp [wordsFrom, hc, hcurrent]

theorem wordsFrom_marks {marks : List Char} (hmarks : ∀ c ∈ marks, isAlphanumeric c = false) :
    ∃ prev', wordsFrom prev [] (marks ++ rest) = wordsFrom prev' [] rest := by
  induction marks generalizing prev with
  | nil => exact ⟨prev, rfl⟩
  | cons c marks ih =>
    obtain ⟨prev', h⟩ : ∃ prev', wordsFrom (some c) [] (marks ++ rest) = wordsFrom prev' [] rest :=
      ih fun d hd => hmarks d (List.mem_cons_of_mem _ hd)
    exact ⟨prev', by simp [wordsFrom, hmarks c List.mem_cons_self, h]⟩

theorem wordsFrom_small (hu : ∀ c ∈ u, c.isLower) :
    wordsFrom prev current (u ++ rest) = wordsFrom (u.getLast?.or prev) (current ++ u) rest := by
  induction u generalizing prev current with
  | nil => simp
  | cons c u ih =>
    have hc : c.isLower := hu c List.mem_cons_self
    have hstarts : startsWord prev c (u ++ rest).head? = false := by simp [startsWord, isUppercase_of_isLower hc]
    rw [List.cons_append, wordsFrom_cons (isAlphanumeric_of_isLower hc) hstarts,
      ih fun d hd => hu d (List.mem_cons_of_mem _ hd), lowercaseChar_of_isLower hc, List.append_assoc,
      List.getLast?_cons, Option.some_or, ← Option.or_some]
    rfl

/-- Between capitals a word only begins in front of a small letter. -/
theorem startsWord_capital {next : Option Char} (hp : Capital p) (hnext : ∀ d, next = some d → isLowercase d = false) :
    startsWord (some p) c next = false := by
  have hnext' : (next.map isLowercase).getD false = false := by
    cases next with
    | none => rfl
    | some d => exact hnext d rfl
  simp [startsWord, hp.not_isLowercase, hp.not_isNumeric, hnext']

/-- Capitals go on with a word, up to one that is followed by a small letter. -/
theorem wordsFrom_capitals (hu : ∀ c ∈ u, c.isLower) (hp : Capital p)
    (hrest : ∀ d, rest.head? = some d → isLowercase d = false) :
    wordsFrom (some p) current (u.map Char.toUpper ++ rest) =
      wordsFrom ((u.map Char.toUpper).getLast?.or (some p)) (current ++ u) rest := by
  induction u generalizing p current with
  | nil => simp
  | cons c u ih =>
    have hc : c.isLower := hu c List.mem_cons_self
    have hu' : ∀ d ∈ u, d.isLower := fun d hd => hu d (List.mem_cons_of_mem _ hd)
    -- What follows the first capital is another one, or the rest.
    have hnext : ∀ d, (u.map Char.toUpper ++ rest).head? = some d → isLowercase d = false := by
      intro d hd
      cases u with
      | nil => exact hrest d hd
      | cons e u =>
        cases hd
        exact (capital_toUpper (hu' e List.mem_cons_self)).not_isLowercase
    rw [List.map_cons, List.cons_append, wordsFrom_cons (capital_toUpper hc).isAlphanumeric
      (startsWord_capital hp hnext), lowercaseChar_toUpper hc, ih hu' (capital_toUpper hc), List.append_assoc,
      List.getLast?_cons, Option.some_or, ← Option.or_some]
    rfl

/-! ## Compounds -/

/-- How a word is spelled. -/
inductive Spelling where
  | lower
  | capitalized
  | upper
  deriving DecidableEq

/-- A word of two or more ASCII letters, with its spelling. -/
structure KeyWord where
  first : Char
  second : Char
  others : List Char
  spelling : Spelling
  small : ∀ c ∈ first :: second :: others, c.isLower

namespace KeyWord

variable {w next : KeyWord}

/-- The word in small letters. -/
def letters (w : KeyWord) : List Char := w.first :: w.second :: w.others

/-- The word as it is spelled. -/
def spelled (w : KeyWord) : List Char :=
  match w.spelling with
  | .lower => w.letters
  | .capitalized => w.first.toUpper :: w.second :: w.others
  | .upper => w.letters.map Char.toUpper

/-- Whether `next` may follow without a mark: a capital behind a small letter, or a capitalized word behind one in
capitals. -/
def Meets (w next : KeyWord) : Prop :=
  ((∃ c, w.spelled.getLast? = some c ∧ c.isLower) ∧ ∃ c, next.spelled.head? = some c ∧ c.isUpper) ∨
    (w.spelling = .upper ∧ next.spelling = .capitalized)

theorem isLower_first (w : KeyWord) : w.first.isLower := w.small _ (by simp)

theorem isLower_second (w : KeyWord) : w.second.isLower := w.small _ (by simp)

theorem letters_ne_nil (w : KeyWord) : w.letters ≠ [] := List.cons_ne_nil _ _

theorem wordsFrom_spelled (w : KeyWord) (hrest : ∀ d, rest.head? = some d → isLowercase d = false) :
    wordsFrom prev [] (w.spelled ++ rest) = wordsFrom w.spelled.getLast? w.letters rest := by
  have htail : ∀ c ∈ w.second :: w.others, c.isLower := fun c hc => w.small c (List.mem_cons_of_mem _ hc)
  have hlast : ∀ (c : Char) (u : List Char), (c :: u).getLast? = u.getLast?.or (some c) := fun c u => by
    rw [List.getLast?_cons, Option.or_some]
  cases hspelling : w.spelling with
  | lower =>
    simp only [spelled, hspelling, letters, List.cons_append, hlast w.first]
    rw [wordsFrom_first (isAlphanumeric_of_isLower w.isLower_first), lowercaseChar_of_isLower w.isLower_first,
      ← List.cons_append, wordsFrom_small htail]
    rfl
  | capitalized =>
    simp only [spelled, hspelling, letters, List.cons_append, hlast w.first.toUpper]
    rw [wordsFrom_first (capital_toUpper w.isLower_first).isAlphanumeric, lowercaseChar_toUpper w.isLower_first,
      ← List.cons_append, wordsFrom_small htail]
    rfl
  | upper =>
    simp only [spelled, hspelling, letters, List.map_cons, List.cons_append, hlast w.first.toUpper]
    rw [wordsFrom_first (capital_toUpper w.isLower_first).isAlphanumeric, lowercaseChar_toUpper w.isLower_first,
      ← List.cons_append, ← List.map_cons, wordsFrom_capitals htail (capital_toUpper w.isLower_first) hrest]
    rfl

/-- A word begins with a small letter or a capital, as it is spelled. -/
theorem head_spelled (w : KeyWord) : ∃ c v, w.spelled = c :: v ∧ isAlphabetic c ∧
    (w.spelling = .lower ∧ c.isLower ∨ w.spelling ≠ .lower ∧ Capital c) := by
  have hcapital := capital_toUpper w.isLower_first
  cases hspelling : w.spelling with
  | lower =>
    exact ⟨_, _, by rw [spelled, hspelling]; rfl, isAlphabetic_of_isLower w.isLower_first,
      .inl ⟨rfl, w.isLower_first⟩⟩
  | capitalized =>
    exact ⟨_, _, by rw [spelled, hspelling], hcapital.isAlphabetic, .inr ⟨nofun, hcapital⟩⟩
  | upper => exact ⟨_, _, by rw [spelled, hspelling]; rfl, hcapital.isAlphabetic, .inr ⟨nofun, hcapital⟩⟩

theorem last_spelled (hupper : w.spelling = .upper) : ∃ c, w.spelled.getLast? = some c ∧ Capital c := by
  have hne : w.spelled ≠ [] := by simp [spelled, hupper, letters]
  refine ⟨w.spelled.getLast hne, List.getLast?_eq_some_getLast hne, ?_⟩
  obtain ⟨c, hc, heq⟩ : ∃ c ∈ w.letters, c.toUpper = w.spelled.getLast hne := by
    simpa [spelled, hupper] using List.getLast_mem hne
  exact heq ▸ capital_toUpper (w.small c hc)

theorem Meets.startsWord (h : w.Meets next) {c : Char} {v : List Char} (hnext : next.spelled = c :: v) :
    startsWord w.spelled.getLast? c (v ++ rest).head? := by
  obtain ⟨c', v', hnext', -, hcase⟩ := next.head_spelled
  obtain ⟨rfl, rfl⟩ := List.cons.inj (hnext.symm.trans hnext')
  rcases h with ⟨⟨p, hp, hlower⟩, d, hd, hupper⟩ | ⟨hupper, hcapitalized⟩
  · obtain rfl : c = d := by simpa [hnext] using hd
    rcases hcase with ⟨-, hc⟩ | ⟨-, hc⟩
    · have hnot := of_isLower (P := fun c => !c.isUpper) (by decide) hc
      simp [hupper] at hnot
    · simp [Redaction.startsWord, hp, hc.isUppercase, isLowercase_of_isLower hlower]
  · obtain ⟨p, hp, hcapital⟩ := last_spelled hupper
    rcases hcase with ⟨hlower, -⟩ | ⟨-, hc⟩
    · simp [hcapitalized] at hlower
    · obtain ⟨-, rfl⟩ : next.first.toUpper = c ∧ next.second :: next.others = v := by
        simpa [spelled, hcapitalized] using hnext
      simp [Redaction.startsWord, hp, hc.isUppercase, hcapital.isUppercase, isLowercase_of_isLower next.isLower_second]

end KeyWord

/-- The key is put together from the words. -/
inductive Compound : List KeyWord → List Char → Prop where
  | word (w : KeyWord) : Compound [w] w.spelled
  | marked {w next : KeyWord} {ws : List KeyWord} {marks key : List Char} : marks ≠ [] →
      (∀ c ∈ marks, c ∈ ['_', '-', '.', '/']) → Compound (next :: ws) key →
      Compound (w :: next :: ws) (w.spelled ++ (marks ++ key))
  | unmarked {w next : KeyWord} {ws : List KeyWord} {key : List Char} : w.Meets next → Compound (next :: ws) key →
      Compound (w :: next :: ws) (w.spelled ++ key)

namespace Compound

variable {w : KeyWord} {ws : List KeyWord}

theorem not_isAlphanumeric_mark (hc : c ∈ ['_', '-', '.', '/']) : isAlphanumeric c = false ∧ isLowercase c = false := by
  have hall : ['_', '-', '.', '/'].all fun c => !isAlphanumeric c && !isLowercase c := by decide
  simpa using List.all_eq_true.1 hall c hc

theorem exists_spelled (h : Compound (w :: ws) key) : ∃ tail, key = w.spelled ++ tail := by
  cases h with
  | word => exact ⟨[], by simp⟩
  | marked _ _ _ => exact ⟨_, rfl⟩
  | unmarked _ _ => exact ⟨_, rfl⟩

theorem wordsFrom_eq (h : Compound ws key) : ∀ prev, wordsFrom prev [] key = ws.map KeyWord.letters := by
  induction h with
  | word w =>
    intro prev
    have hspelled : wordsFrom prev [] (w.spelled ++ []) = wordsFrom w.spelled.getLast? w.letters [] :=
      w.wordsFrom_spelled nofun
    rw [List.append_nil] at hspelled
    simp [hspelled, wordsFrom, w.letters_ne_nil]
  | @marked w next ws marks key hne hmarks _ ih =>
    -- The first mark ends the word, and the marks behind it begin none.
    intro prev
    obtain ⟨mark, marks, rfl⟩ := List.exists_cons_of_ne_nil hne
    have hmark := not_isAlphanumeric_mark (hmarks mark List.mem_cons_self)
    have hrest : ∀ d, (mark :: (marks ++ key)).head? = some d → isLowercase d = false := by
      rintro d ⟨⟩
      exact hmark.2
    obtain ⟨prev', hprev'⟩ : ∃ prev', wordsFrom (some mark) [] (marks ++ key) = wordsFrom prev' [] key :=
      wordsFrom_marks fun c hc => (not_isAlphanumeric_mark (hmarks c (List.mem_cons_of_mem _ hc))).1
    rw [List.cons_append, w.wordsFrom_spelled hrest, wordsFrom_mark w.letters_ne_nil hmark.1, hprev', ih]
    rfl
  | @unmarked w next ws key hmeets hkey ih =>
    -- The next word begins with a capital: it does not cut the last letter off this one, and it begins a word.
    intro prev
    obtain ⟨tail, rfl⟩ := hkey.exists_spelled
    obtain ⟨c, v, hspelled, halphabetic, hcase⟩ := next.head_spelled
    have hc : isAlphanumeric c := by rw [isAlphanumeric, halphabetic, Bool.true_or]
    have hstarts : startsWord w.spelled.getLast? c (v ++ tail).head? := hmeets.startsWord hspelled
    have hlower : isLowercase c = false := by
      rcases hcase with ⟨-, hlower⟩ | ⟨-, hcapital⟩
      · simp [startsWord, isUppercase_of_isLower hlower] at hstarts
      · exact hcapital.not_isLowercase
    have hrest : ∀ d, (next.spelled ++ tail).head? = some d → isLowercase d = false := by
      rw [hspelled]
      rintro d ⟨⟩
      exact hlower
    rw [w.wordsFrom_spelled hrest, hspelled, List.cons_append, wordsFrom_starts w.letters_ne_nil hc hstarts,
      ← List.cons_append, ← hspelled, ih]
    rfl

/-! ## Shouted keys -/

theorem any_isLowercase_spelled (w : KeyWord) : w.spelled.any isLowercase = true ↔ w.spelling ≠ .upper := by
  have hsecond := isLowercase_of_isLower w.isLower_second
  cases hspelling : w.spelling with
  | lower => simp [KeyWord.spelled, KeyWord.letters, hspelling, hsecond]
  | capitalized => simp [KeyWord.spelled, hspelling, hsecond]
  | upper =>
    have hall : ∀ c ∈ w.letters, isLowercase c.toUpper = false :=
      fun c hc => (capital_toUpper (w.small c hc)).not_isLowercase
    simpa [KeyWord.spelled, hspelling] using hall

theorem any_isLowercase (h : Compound ws key) : key.any isLowercase = true ↔ ∃ w ∈ ws, w.spelling ≠ .upper := by
  induction h with
  | word w =>
    rw [any_isLowercase_spelled]
    simp
  | @marked w next ws marks key _ hmarks _ ih =>
    have hnone : marks.any isLowercase = false :=
      List.any_eq_false.2 fun c hc => by simp [(not_isAlphanumeric_mark (hmarks c hc)).2]
    rw [List.any_append, List.any_append, hnone, Bool.false_or, Bool.or_eq_true, any_isLowercase_spelled, ih]
    simp
  | @unmarked w next ws key _ _ ih =>
    rw [List.any_append, Bool.or_eq_true, any_isLowercase_spelled, ih]
    simp

theorem any_isAlphabetic (h : Compound ws key) : key.any isAlphabetic = true := by
  have hword : ∀ w : KeyWord, w.spelled.any isAlphabetic = true := by
    intro w
    obtain ⟨c, v, hspelled, hc, -⟩ := w.head_spelled
    rw [hspelled, List.any_cons, hc, Bool.true_or]
  cases h with
  | word w => exact hword w
  | marked _ _ _ => rw [List.any_append, hword, Bool.true_or]
  | unmarked _ _ => rw [List.any_append, hword, Bool.true_or]

theorem isShouted_iff (h : Compound ws key) : isShouted key ↔ ∀ w ∈ ws, w.spelling = .upper := by
  rw [isShouted, h.any_isAlphabetic, Bool.true_and, Bool.not_eq_true', ← Bool.not_eq_true, h.any_isLowercase]
  simp

/-- A word rule matches by the words of the key; if all of them are in capitals, also by the end of one. -/
theorem matchesKey_iff (h : Compound ws key) (name term : String) :
    (Rule.key name (.word term)).matchesKey key ↔ term.toList ∈ ws.map KeyWord.letters ∨
      (∀ w ∈ ws, w.spelling = .upper) ∧ ∃ w ∈ ws, term.toList <:+ w.letters ∧ term.toList ≠ w.letters := by
  simp only [Rule.matchesKey, KeyMatcher.accepts, keyWords, h.wordsFrom_eq none, List.any_map, List.any_eq_true,
    Function.comp_apply, Bool.or_eq_true, beq_iff_eq, Bool.and_eq_true, h.isShouted_iff, List.isSuffixOf_iff_suffix,
    List.mem_map]
  constructor
  · rintro ⟨w, hw, heq | ⟨hupper, hsuffix⟩⟩
    · exact .inl ⟨w, hw, heq⟩
    · by_cases heq : w.letters = term.toList
      · exact .inl ⟨w, hw, heq⟩
      · exact .inr ⟨hupper, w, hw, hsuffix, Ne.symm heq⟩
  · rintro (⟨w, hw, heq⟩ | ⟨hupper, w, hw, hsuffix, -⟩)
    · exact ⟨w, hw, .inl heq⟩
    · exact ⟨w, hw, .inr ⟨hupper, hsuffix⟩⟩

end Compound

/-! ## Splitting -/

/-- The words of a key have its letters and digits and nothing else. A key put together from words falls into them
again, so a word rule matches by the words. -/
theorem keyWords_of_compound :
    (∀ key, (∀ w ∈ keyWords key, w ≠ []) ∧
      (keyWords key).flatten = (key.filter isAlphanumeric).flatMap lowercaseChar) ∧
    ∀ ws key, Compound ws key → keyWords key = ws.map KeyWord.letters ∧
      ∀ name term, (Rule.key name (.word term)).matchesKey key ↔ term.toList ∈ ws.map KeyWord.letters ∨
        (∀ w ∈ ws, w.spelling = .upper) ∧ ∃ w ∈ ws, term.toList <:+ w.letters ∧ term.toList ≠ w.letters := by
  refine ⟨fun key => ⟨ne_nil_of_mem_wordsFrom key none [], ?_⟩, fun ws key h => ⟨h.wordsFrom_eq none, h.matchesKey_iff⟩⟩
  rw [keyWords, flatten_wordsFrom, List.nil_append]

/-- Words with a joint of each kind between them: a mark, the end of an acronym, and a capital behind a small
letter. -/
def tlsKeyRef : List KeyWord :=
  [⟨'m', 'y', [], .lower, by simp⟩, ⟨'t', 'l', ['s'], .upper, by simp⟩, ⟨'k', 'e', ['y'], .capitalized, by simp⟩,
    ⟨'r', 'e', ['f'], .capitalized, by simp⟩]

theorem keyWords_of_compound_tlsKeyRef :
    Compound tlsKeyRef "my.TLSKeyRef".toList ∧
      keyWords "my.TLSKeyRef".toList = ["my".toList, "tls".toList, "key".toList, "ref".toList] ∧
      (Rule.key "key:key" (.word "key")).matchesKey "my.TLSKeyRef".toList ∧
      Compound [⟨'s', 's', ['h', 'k', 'e', 'y'], .upper, by simp⟩] "SSHKEY".toList ∧
      (Rule.key "key:key" (.word "key")).matchesKey "SSHKEY".toList := by
  have compound : Compound tlsKeyRef ("my".toList ++ (['.'] ++ ("TLS".toList ++ ("Key".toList ++ "Ref".toList)))) := by
    refine .marked (by simp) (by simp) (.unmarked (.inr ⟨rfl, rfl⟩) (.unmarked (.inl ⟨?_, ?_⟩) (.word _)))
    · exact ⟨'y', rfl, rfl⟩
    · exact ⟨'R', rfl, rfl⟩
  have shouted : Compound [⟨'s', 's', ['h', 'k', 'e', 'y'], .upper, by simp⟩] "SSHKEY".toList := .word _
  have split := keyWords_of_compound.2 _ _ compound
  refine ⟨compound, split.1, (split.2 "key:key" "key").2 (.inl (by decide)), shouted, ?_⟩
  exact ((keyWords_of_compound.2 _ _ shouted).2 "key:key" "key").2
    (.inr ⟨by simp, _, List.mem_singleton_self _, ⟨"ssh".toList, rfl⟩, by decide⟩)

end Periscope.Redaction
