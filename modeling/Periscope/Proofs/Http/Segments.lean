import Mathlib.Data.List.Forall2
import Periscope.Http.Url
import Periscope.Proofs.Http.Percent
import Periscope.Proofs.Text.Lowercase
import Periscope.Proofs.Text.Split

/-!
# Texts as segments of a path

A text that is put into a path stands at its end, encoded, unless it is a step or holds a tab or a line end,
which count nowhere. Then the path is lighter than the text would make it.
-/

namespace Periscope.Http.Url

open Text

/-! ## Steps -/

theorem toLower_eq {c d : Char} (h : c.toLower = d) (small : d.toNat < 97) : c = d := by
  rcases toLower_cases h with same | ⟨shifted, upper⟩
  · exact same
  · omega

theorem toLower_eq_e {c : Char} (h : c.toLower = 'e') : c = 'e' ∨ c = 'E' := by
  refine (toLower_cases h).imp_right fun ⟨shifted, _⟩ => Char.toNat_inj.1 ?_
  exact Nat.add_right_cancel (m := 32) shifted

/-- The two ways of writing a dot in a segment. -/
def IsDot (text : List Char) : Prop := text = ['.'] ∨ text = ['%', '2', 'e']

/-- A segment that begins with a dot, in small letters, begins with the byte of a dot. -/
theorem percentDecode_of_dot {segment dot rest : List Char} (h : segment.map Char.toLower = dot ++ rest)
    (isDot : IsDot dot) :
    ∃ behind, behind.map Char.toLower = rest ∧ percentDecode segment = 0x2E :: percentDecode behind := by
  rcases isDot with rfl | rfl
  · obtain ⟨c, behind, rfl, small, lowered⟩ := List.map_eq_cons_iff.1 h
    obtain rfl := toLower_eq small (by decide)
    exact ⟨behind, lowered, percentDecode_cons (by decide) behind⟩
  · obtain ⟨c, _, rfl, small, h⟩ := List.map_eq_cons_iff.1 h
    obtain ⟨high, _, rfl, small', h⟩ := List.map_eq_cons_iff.1 h
    obtain ⟨low, behind, rfl, small'', lowered⟩ := List.map_eq_cons_iff.1 h
    obtain rfl := toLower_eq small (by decide)
    obtain rfl := toLower_eq small' (by decide)
    refine ⟨behind, lowered, ?_⟩
    rcases toLower_eq_e small'' with rfl | rfl <;> rfl

theorem percentDecode_of_isStay {segment : List Char} (h : isStay segment) :
    percentDecode segment = utf8Bytes ['.'] := by
  have dot : ∃ dot, IsDot dot ∧ segment.map Char.toLower = dot ++ [] := by
    simp only [isStay, List.contains_cons, List.contains_nil, Bool.or_false, Bool.or_eq_true, beq_iff_eq] at h
    rcases h with h | h
    · exact ⟨_, .inl rfl, by simpa using congrArg String.toList h⟩
    · exact ⟨_, .inr rfl, by simpa using congrArg String.toList h⟩
  obtain ⟨dot, isDot, lowered⟩ := dot
  obtain ⟨behind, none', decoded⟩ := percentDecode_of_dot lowered isDot
  obtain rfl := List.map_eq_nil_iff.1 none'
  exact decoded

theorem percentDecode_of_isUp {segment : List Char} (h : isUp segment) :
    percentDecode segment = utf8Bytes ['.', '.'] := by
  have dots : ∃ dot dot', IsDot dot ∧ IsDot dot' ∧ segment.map Char.toLower = dot ++ (dot' ++ []) := by
    simp only [isUp, List.contains_cons, List.contains_nil, Bool.or_false, Bool.or_eq_true, beq_iff_eq] at h
    rcases h with h | h | h | h
    · exact ⟨_, _, .inl rfl, .inl rfl, by simpa using congrArg String.toList h⟩
    · exact ⟨_, _, .inr rfl, .inl rfl, by simpa using congrArg String.toList h⟩
    · exact ⟨_, _, .inl rfl, .inr rfl, by simpa using congrArg String.toList h⟩
    · exact ⟨_, _, .inr rfl, .inr rfl, by simpa using congrArg String.toList h⟩
  obtain ⟨dot, dot', isDot, isDot', lowered⟩ := dots
  obtain ⟨behind, lowered', decoded⟩ := percentDecode_of_dot lowered isDot
  obtain ⟨behind', none', decoded'⟩ := percentDecode_of_dot lowered' isDot'
  obtain rfl := List.map_eq_nil_iff.1 none'
  rw [decoded, decoded']
  rfl

/-! ## Texts without tabs and line ends -/

/-- The text holds no tab and no line end. -/
def Clean (text : List Char) : Prop := ∀ c ∈ text, isIgnored c = false

instance (text : List Char) : Decidable (Clean text) :=
  decidable_of_iff (text.all fun c => !isIgnored c) (by simp [Clean])

/-- The text is a step as it is given. -/
def IsStep (text : List Char) : Prop := text = ['.'] ∨ text = ['.', '.']

section

variable {special : Bool} {path : List (List Char)} {text : List Char} {texts : List (List Char)}

theorem Clean.filter_eq (clean : Clean text) : (text.filter fun c => !isIgnored c) = text :=
  List.filter_eq_self.2 fun c mem => by simp [clean c mem]

theorem inSegment_percent : inSegment special '%' = false := by simp [inSegment]

theorem percentDecode_encoded : percentDecode (percentEncode (inSegment special) text) = utf8Bytes text :=
  percentDecode_percentEncode inSegment_percent text

/-- No text becomes a step by being encoded. -/
theorem settle_encoded (straight : ¬ IsStep text) :
    settle path (percentEncode (inSegment special) text) = path ++ [percentEncode (inSegment special) text] := by
  -- an encoded text decodes to the text, and an encoded step to the step
  have noUp : ¬ isUp (percentEncode (inSegment special) text) := fun up =>
    straight (.inr (utf8Bytes_injective (percentDecode_encoded.symm.trans (percentDecode_of_isUp up))))
  have noStay : ¬ isStay (percentEncode (inSegment special) text) := fun stay =>
    straight (.inl (utf8Bytes_injective (percentDecode_encoded.symm.trans (percentDecode_of_isStay stay))))
  rw [settle, if_neg noUp, if_neg noStay]

theorem addSegment_of_not_isStep (straight : ¬ IsStep text) :
    addSegment special path text =
      settle (if path = [[]] then [] else path)
        (percentEncode (inSegment special) (text.filter fun c => !isIgnored c)) := by
  simp only [IsStep] at straight
  simp [addSegment, straight]

theorem addSegment_of_clean (clean : Clean text) (straight : ¬ IsStep text) :
    addSegment special path text =
      (if path = [[]] then [] else path) ++ [percentEncode (inSegment special) text] := by
  rw [addSegment_of_not_isStep straight, clean.filter_eq, settle_encoded straight]

theorem percentEncode_ne_nil (h : text ≠ []) : percentEncode (inSegment special) text ≠ [] :=
  fun empty => h (percentEncode_injective inSegment_percent empty)

/-- Clean texts stand one behind the other, unless the first of them is swallowed with an empty path. -/
theorem foldl_addSegment_of_clean (clean : ∀ text ∈ texts, Clean text)
    (straight : ∀ text ∈ texts, ¬ IsStep text) (full : path ≠ [[]])
    (head : path = [] → texts.head? ≠ some []) :
    texts.foldl (addSegment special) path = path ++ texts.map (percentEncode (inSegment special)) := by
  induction texts generalizing path with
  | nil => simp
  | cons text texts ih =>
    rw [List.forall_mem_cons] at clean straight
    rw [List.foldl_cons, addSegment_of_clean clean.1 straight.1, if_neg full, ih clean.2 straight.2]
    · simp
    · intro lone
      cases path with
      | nil =>
        have empty : percentEncode (inSegment special) text = [] := by simpa using lone
        exact percentEncode_ne_nil (fun h => head rfl (congrArg some h)) empty
      | cons => simp at lone
    · simp

/-- What is put into a path does not depend on tabs and line ends. -/
theorem foldl_addSegment_congr {texts' : List (List Char)} (special : Bool) (path : List (List Char))
    (straight : ∀ text ∈ texts, ¬ IsStep text) (straight' : ∀ text ∈ texts', ¬ IsStep text)
    (same : texts.map (·.filter fun c => !isIgnored c) = texts'.map (·.filter fun c => !isIgnored c)) :
    texts.foldl (addSegment special) path = texts'.foldl (addSegment special) path := by
  induction texts generalizing path texts' with
  | nil => rw [List.map_eq_nil_iff.1 same.symm]
  | cons text texts ih =>
    obtain ⟨text', texts', rfl, first, others⟩ := List.map_eq_cons_iff.1 same.symm
    rw [List.forall_mem_cons] at straight straight'
    rw [List.foldl_cons, List.foldl_cons, addSegment_of_not_isStep straight.1,
      addSegment_of_not_isStep straight'.1, first]
    exact ih _ straight.2 straight'.2 others.symm

/-! ## Weight -/

/-- The bytes that the segments of a path stand for, and one more for each of them. -/
def weight : List (List Char) → Nat
  | [] => 0
  | segment :: path => (percentDecode segment).length + 1 + weight path

theorem weight_append (front back : List (List Char)) : weight (front ++ back) = weight front + weight back := by
  induction front with
  | nil => exact (Nat.zero_add _).symm
  | cons segment front ih => simp only [List.cons_append, weight, ih, Nat.add_assoc]

theorem weight_dropLast_le (path : List (List Char)) : weight path.dropLast ≤ weight path := by
  rcases List.eq_nil_or_concat path with rfl | ⟨front, segment, rfl⟩
  · exact Nat.le_refl _
  · rw [List.concat_eq_append, List.dropLast_concat, weight_append]
    exact Nat.le_add_right _ _

theorem weight_settle_le (path : List (List Char)) (segment : List Char) :
    weight (settle path segment) ≤ weight path + weight [segment] := by
  have empty : weight [[]] ≤ weight [segment] := by simp [weight, percentDecode]
  unfold settle
  split
  · split
    · exact Nat.le_add_left_of_le empty
    · split <;> rw [weight_append]
      · exact Nat.add_le_add_left empty _
      · exact Nat.add_le_add (weight_dropLast_le path) empty
  · split
    · rw [weight_append]
      exact Nat.add_le_add_left empty _
    · exact Nat.le_of_eq (weight_append path [segment])

/-- Tabs and line ends weigh nothing in a path, and a step takes weight from it. -/
theorem weight_addSegment_le (special : Bool) (path : List (List Char)) (straight : ¬ IsStep text) :
    weight (addSegment special path text) + (utf8Bytes (text.filter isIgnored)).length ≤
      weight path + (utf8Bytes text).length + 1 := by
  have filled : weight (if path = [[]] then [] else path) ≤ weight path := by
    split
    · exact Nat.zero_le _
    · exact Nat.le_refl _
  have settled := weight_settle_le (if path = [[]] then [] else path)
    (percentEncode (inSegment special) (text.filter fun c => !isIgnored c))
  simp only [weight, percentDecode_encoded] at settled
  have kept := length_utf8Bytes_filter isIgnored text
  rw [addSegment_of_not_isStep straight]
  omega

theorem weight_foldl_le (special : Bool) (path : List (List Char)) (straight : ∀ text ∈ texts, ¬ IsStep text) :
    weight (texts.foldl (addSegment special) path) + (utf8Bytes (texts.flatten.filter isIgnored)).length ≤
      weight path + (utf8Bytes texts.flatten).length + texts.length := by
  induction texts generalizing path with
  | nil => simp
  | cons text texts ih =>
    rw [List.forall_mem_cons] at straight
    have first := weight_addSegment_le special path straight.1
    have others := ih (addSegment special path text) straight.2
    simp only [List.foldl_cons, List.flatten_cons, List.filter_append, utf8Bytes_append, List.length_append,
      List.length_cons]
    omega

end

/-! ## Extended URLs -/

/-- The segments are those of the texts, one by one: each stands for the bytes of its text. -/
def Spells (segments : List (List Char)) (texts : List String) : Prop :=
  List.Forall₂ (fun segment text => percentDecode segment = text.toUTF8.data.toList) segments texts

/-- A path without the empty segment at its end, if there is one. -/
def trimmed (path : List (List Char)) : List (List Char) :=
  if path.getLast? = some [] then path.dropLast else path

section

variable {u : Url} {list : List (List Char)} {first : String} {texts : List String} {query : Option (List Char)}

theorem spells_encoded (special : Bool) (texts : List String) :
    Spells ((texts.map String.toList).map (percentEncode (inSegment special))) texts := by
  induction texts with
  | nil => exact .nil
  | cons text texts ih => exact .cons (percentDecode_encoded.trans (utf8Bytes_toList text)) ih

theorem Spells.weight_eq {tail : List (List Char)} (h : Spells tail texts) :
    weight tail = (utf8Bytes (texts.map String.toList).flatten).length + texts.length := by
  induction h with
  | nil => rfl
  | @cons segment text tail texts same _ ih =>
    rw [← utf8Bytes_toList] at same
    simp only [weight, List.map_cons, List.flatten_cons, utf8Bytes_append, List.length_append,
      List.length_cons, same] at ih ⊢
    omega

/-- The path to which the first text is added. -/
def root (path : List (List Char)) : List (List Char) := if path = [[], []] then [] else trimmed path

theorem eq_of_trimmed_eq (lone : trimmed list = [[]]) : list = [[], []] := by
  unfold trimmed at lone
  split at lone
  · next last =>
    rw [← List.dropLast_append_getLast? [] last, lone]
    rfl
  · next last => exact absurd (lone ▸ rfl) last

theorem root_ne : root list ≠ [[]] := by
  unfold root
  split
  · nofun
  · next other => exact fun lone => other (eq_of_trimmed_eq lone)

/-- The path that is extended, as the first text finds it. -/
theorem fill_eq_root (list : List (List Char)) :
    (let start := if list.getLast? == some [] && list.length != 1 then list.dropLast else list
      if start = [[]] then [] else start) = root list := by
  by_cases last : list.getLast? = some []
  · by_cases lone : list.length = 1
    · obtain ⟨segment, rfl⟩ := List.length_eq_one_iff.1 lone
      obtain rfl : segment = [] := by simpa using last
      rfl
    · have swallowed : list.dropLast = [[]] ↔ list = [[], []] :=
        ⟨fun h => eq_of_trimmed_eq (by simp [trimmed, last, h]), fun h => by rw [h]; rfl⟩
      simp [root, trimmed, last, lone, swallowed]
  · have other (h : list = [[]] ∨ list = [[], []]) : False := by
      rcases h with rfl | rfl <;> exact last rfl
    simp [root, trimmed, last, mt Or.inl other, mt Or.inr other]

theorem extended?_eq (path : u.path = .segments list) (straight : ¬ IsStep first.toList) :
    u.extended? (first :: texts) query = some { u with
      path := .segments (((first :: texts).map String.toList).foldl (addSegment (isSpecial u.scheme)) (root list))
      query } := by
  simp only [extended?, path, List.map_cons, List.foldl_cons, addSegment_of_not_isStep straight, root_ne, ↓reduceIte]
  rw [← fill_eq_root]

theorem extended?_of_clean (path : u.path = .segments list) (nonempty : first ≠ "")
    (straight : ∀ text ∈ first :: texts, ¬ IsStep text.toList)
    (clean : ∀ text ∈ first :: texts, Clean text.toList) :
    u.extended? (first :: texts) query = some { u with
      path := .segments (root list ++
        ((first :: texts).map String.toList).map (percentEncode (inSegment (isSpecial u.scheme))))
      query } := by
  rw [extended?_eq path (straight first List.mem_cons_self)]
  rw [foldl_addSegment_of_clean (List.forall_mem_map.2 clean) (List.forall_mem_map.2 straight) root_ne]
  exact fun _ => by simpa using nonempty

/-- The texts stand behind the path one by one, exactly if no tab and no line end is in them and the path is not
the one of two empty segments, which is swallowed. -/
theorem extended?_spells_iff (path : u.path = .segments list) (nonempty : first ≠ "")
    (straight : ∀ text ∈ first :: texts, ¬ IsStep text.toList) :
    (∃ u' tail, u.extended? (first :: texts) query = some u' ∧ u'.path = .segments (trimmed list ++ tail) ∧
        Spells tail (first :: texts)) ↔
      (∀ text ∈ first :: texts, Clean text.toList) ∧ list ≠ [[], []] := by
  constructor
  · rintro ⟨u', tail, found, sameEnd, spells⟩
    rw [extended?_eq path (straight first List.mem_cons_self)] at found
    generalize first :: texts = all at *
    obtain rfl := Option.some.inj found
    -- what is spelled out has its full weight, and what is put in loses that of the tabs and line ends
    have light := weight_foldl_le (isSpecial u.scheme) (root list) (List.forall_mem_map.2 straight)
    rw [UrlPath.segments.inj sameEnd, weight_append, spells.weight_eq, List.length_map] at light
    have whole : list ≠ [[], []] := by
      rintro rfl
      have fewer : weight (root [[], []]) < weight (trimmed [[], []]) := by decide
      omega
    rw [root, if_neg whole] at light
    have none' : (all.map String.toList).flatten.filter isIgnored = [] :=
      utf8Bytes_injective (List.eq_nil_of_length_eq_zero (by omega))
    refine ⟨fun text mem c within => ?_, whole⟩
    rw [List.filter_eq_nil_iff] at none'
    simpa using none' c (List.mem_flatten.2 ⟨_, List.mem_map_of_mem mem, within⟩)
  · rintro ⟨clean, whole⟩
    have atRoot : root list = trimmed list := if_neg whole
    exact ⟨_, _, extended?_of_clean path nonempty straight clean, congrArg (UrlPath.segments <| · ++ _) atRoot,
      spells_encoded (isSpecial u.scheme) _⟩

/-! ## Request targets -/

theorem flatMap_slash_inj {path path' : List (List Char)} (free : ∀ segment ∈ path, '/' ∉ segment)
    (free' : ∀ segment ∈ path', '/' ∉ segment) (h : path.flatMap ('/' :: ·) = path'.flatMap ('/' :: ·)) :
    path = path' := by
  have marked (path : List (List Char)) : ∀ c ∈ (path.flatMap ('/' :: ·)).head?, c = '/' := by
    cases path <;> simp
  induction path generalizing path' with
  | nil =>
    cases path' with
    | nil => rfl
    | cons => cases h
  | cons segment path ih =>
    cases path' with
    | nil => cases h
    | cons segment' path' =>
      rw [List.forall_mem_cons] at free free'
      obtain ⟨rfl, rest⟩ := Text.cut_inj free.1 free'.1 (marked path) (marked path') (List.cons.inj h).2
      rw [ih free.2 free'.2 rest]

theorem toList_target {u : Url} {path : List (List Char)} (h : u.path = .segments path) :
    u.target.toList = path.flatMap ('/' :: ·) ++ ((u.query.map ('?' :: ·)).getD []) := by
  cases query : u.query <;> simp [target, renderPath, h, query]

theorem notMem_encoded {special : Bool} {text : List Char} {c : Char} (free : inSegment special c = false)
    (other : c ≠ '%') (sign : c.isAlphanum = false) : c ∉ percentEncode (inSegment special) text := by
  intro mem
  rcases mem_percentEncode mem with held | percent | letter
  · cases free.symm.trans held
  · exact other percent
  · cases sign.symm.trans letter

/-- Behind the same path, encoded texts with one request target are the same texts. -/
theorem target_inj {u u' : Url} {front : List (List Char)} {special : Bool} {texts texts' : List (List Char)}
    (path : u.path = .segments (front ++ texts.map (percentEncode (inSegment special))))
    (path' : u'.path = .segments (front ++ texts'.map (percentEncode (inSegment special))))
    (same : u.target = u'.target) : texts = texts' := by
  have noSlash (texts : List (List Char)) :
      ∀ segment ∈ texts.map (percentEncode (inSegment special)), '/' ∉ segment :=
    List.forall_mem_map.2 fun text _ => notMem_encoded (by simp [inSegment]) (by decide) (by decide)
  have noMark (texts : List (List Char)) :
      '?' ∉ (texts.map (percentEncode (inSegment special))).flatMap ('/' :: ·) := by
    simp only [List.mem_flatMap, List.mem_map, not_exists, not_and, forall_exists_index, and_imp]
    rintro _ text - rfl mem
    rcases List.mem_cons.1 mem with slash | mem
    · cases slash
    · exact notMem_encoded (by simp [inSegment, inPath]) (by decide) (by decide) mem
  have marked (query : Option (List Char)) : ∀ c ∈ ((query.map ('?' :: ·)).getD []).head?, c = '?' := by
    cases query <;> simp
  have texts := congrArg String.toList same
  rw [toList_target path, toList_target path', List.flatMap_append, List.flatMap_append, List.append_assoc,
    List.append_assoc] at texts
  have paths := (Text.cut_inj (noMark _) (noMark _) (marked _) (marked _) (List.append_cancel_left texts)).1
  exact (List.map_inj_right fun _ _ => percentEncode_injective inSegment_percent).1
    (flatMap_slash_inj (noSlash _) (noSlash _) paths)

end

end Periscope.Http.Url
