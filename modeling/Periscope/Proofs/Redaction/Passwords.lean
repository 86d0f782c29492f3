import Periscope.Proofs.Redaction.Fences

/-!
# Passwords of URLs

How a match of the pattern of URLs lies in a text, and that the rule leaves no password behind: what it shows
between two of its brackets was there before. Main result: `urlCredentialsRule_free`.
-/

namespace Periscope.Redaction

open Pattern

variable {prev next : Option Char} {w rest origin user password : List Char}

/-! ## The parts of a URL -/

/-- The characters of the user of a URL. -/
def userChar : CharSet := .compl (.unions [.single ':', .single '/', .blank, .single '@'])

/-- The characters of the password of a URL. -/
def passwordChar : CharSet := .compl (.unions [.single '@', .blank, .single '/'])

/-- The scheme of a URL and the slashes behind it. -/
def IsOrigin (w : List Char) : Prop :=
  ∃ x scheme, w = x :: (scheme ++ "://".toList) ∧ letter.contains x ∧ Over schemeChar scheme

/-- A URL up to its host. -/
structure Login (origin user password : List Char) : Prop where
  isOrigin : IsOrigin origin
  user_ne_nil : user ≠ []
  over_user : Over userChar user
  password_ne_nil : password ≠ []
  over_password : Over passwordChar password

/-- The patterns in front of a password. -/
def loginItems : List Pattern :=
  [.one letter, (Pattern.one schemeChar).star true, .one (.single ':'), .one (.single '/'), .one (.single '/'),
    (Pattern.one userChar).plus true, .one (.single ':')]

theorem urlCredentials_eq : urlCredentials =
    seqs (loginItems ++ [.group "secret" ((Pattern.one passwordChar).plus true), .one (.single '@')]) := rfl

theorem accepts_loginItems : (seqs loginItems).Accepts prev w next ↔
    ∃ origin user, w = origin ++ (user ++ [':']) ∧ IsOrigin origin ∧ user ≠ [] ∧ Over userChar user := by
  simp only [loginItems, accepts_one_seqs, contains_single, accepts_star_seqs, accepts_plus_seqs, accepts_seqs_nil,
    IsOrigin]
  constructor
  · rintro ⟨x, _, rfl, hx, scheme, _, rfl, hscheme, _, _, rfl, rfl, _, _, rfl, rfl, _, _, rfl, rfl, user, _, rfl,
      ⟨hne, huser⟩, _, _, rfl, rfl, rfl⟩
    exact ⟨x :: (scheme ++ "://".toList), user, by simp, ⟨x, scheme, rfl, hx, hscheme⟩, hne, huser⟩
  · rintro ⟨_, user, rfl, ⟨x, scheme, rfl, hx, hscheme⟩, hne, huser⟩
    exact ⟨x, scheme ++ ("://".toList ++ (user ++ [':'])), by simp, hx, scheme, _, rfl, hscheme, _, _, rfl, rfl, _, _,
      rfl, rfl, _, _, rfl, rfl, user, _, rfl, ⟨hne, huser⟩, _, _, rfl, rfl, rfl⟩

theorem accepts_urlCredentials : urlCredentials.Accepts prev w next ↔
    ∃ origin user password, w = origin ++ (user ++ ':' :: (password ++ ['@'])) ∧ Login origin user password := by
  have hgroup : ∀ {prev w next}, (group "secret" ((Pattern.one passwordChar).plus true)).Accepts prev w next ↔
      w ≠ [] ∧ Over passwordChar w := fun {prev w next} =>
    show ((Pattern.one passwordChar).plus true).Accepts prev w next ↔ _ from accepts_plus_one
  rw [urlCredentials_eq, accepts_seqs_append]
  simp only [accepts_loginItems, accepts_seqs_cons (p := group ..), hgroup, accepts_single_seqs, accepts_seqs_nil]
  constructor
  · rintro ⟨_, _, rfl, ⟨origin, user, rfl, horigin, hne, huser⟩, password, _, rfl, ⟨hpne, hpassword⟩, _, rfl, rfl⟩
    exact ⟨origin, user, password, by simp, horigin, hne, huser, hpne, hpassword⟩
  · rintro ⟨origin, user, password, rfl, horigin, hne, huser, hpne, hpassword⟩
    exact ⟨origin ++ (user ++ [':']), password ++ ['@'], by simp, ⟨origin, user, rfl, horigin, hne, huser⟩, password,
      ['@'], rfl, ⟨hpne, hpassword⟩, [], rfl, rfl⟩

theorem urlCredentials_hit {text : List Char} {hit : Hit} (h : urlCredentials.matchAt prev text = some hit) :
    ∃ origin user password, Login origin user password ∧
      urlCredentialsRule.Aims hit (origin ++ (user ++ [':'])) password ['@'] := by
  have hback : ∀ c e, (seqs [.one (.single '@')]).run some c = some e → e.groups = c.groups := by
    intro c e h
    simp only [seqs, run] at h
    split at h
    · cases h
    · split at h
      · cases h
        rfl
      · cases h
  obtain ⟨front, password, close, rest, htext, hgroup, hfront, hpassword, hclose, -⟩ :=
    matchAt_group loginItems [.one (.single '@')] hback h
  obtain ⟨origin, user, rfl, horigin, hne, huser⟩ := accepts_loginItems.1 hfront
  obtain ⟨_, rfl, rfl⟩ := accepts_single_seqs.1 hclose
  obtain ⟨hpne, hpassword⟩ := accepts_plus_one.1 hpassword
  exact ⟨origin, user, password, ⟨horigin, hne, huser, hpne, hpassword⟩, ⟨by simpa using htext, hgroup⟩⟩

/-! ## One way of reading -/

/-- Every character but one. -/
def allBut (c : Char) : CharSet := .compl (.single c)

theorem over_allBut {c : Char} : Over (allBut c) w ↔ c ∉ w := by
  simp only [Over, allBut, CharSet.contains, Bool.not_eq_true', Bool.eq_false_iff, ne_eq, contains_single]
  exact ⟨fun h hc => h c hc rfl, fun h x hx hxc => h (hxc ▸ hx)⟩

theorem stops_allBut (c : Char) : Stops (allBut c) (some c) :=
  .some (by simp [allBut, CharSet.contains, contains_single])

theorem IsOrigin.head (h : IsOrigin w) : ∃ x v, w = x :: v ∧ letter.contains x := by
  obtain ⟨x, scheme, rfl, hx, -⟩ := h
  exact ⟨x, _, rfl, hx⟩

theorem IsOrigin.unmarked (h : IsOrigin w) : Unmarked w := by
  obtain ⟨x, scheme, rfl, hx, hscheme⟩ := h
  have hletter : ∀ c, letter.contains c = false → c ≠ x := by
    rintro c hc rfl
    simp [hc] at hx
  have hopen := hscheme.not_mem (x := '[') rfl
  have hclose := hscheme.not_mem (x := ']') rfl
  exact ⟨by simp [hopen, hletter '[' rfl], by simp [hclose, hletter ']' rfl], '/', by simp, by decide⟩

theorem password_unique {user' password' x y : List Char} (huser : Over userChar user) (huser' : Over userChar user')
    (hpassword : Over passwordChar password) (hpassword' : Over passwordChar password')
    (h : user ++ ':' :: (password ++ '@' :: x) = user' ++ ':' :: (password' ++ '@' :: y)) : password = password' := by
  obtain ⟨rfl, hbehind⟩ := over_unique huser huser' (.some rfl) (.some rfl) h
  exact (over_unique hpassword hpassword' (.some rfl) (.some rfl) (List.cons.inj hbehind).2).1

theorem origin_unique {w' origin' x y : List Char} (horigin : IsOrigin origin) (horigin' : IsOrigin origin')
    (hw : '/' ∉ w) (hw' : '/' ∉ w') (h : x ++ (origin ++ w) = y ++ (origin' ++ w')) : w = w' := by
  have hstops : ∀ {x origin : List Char}, IsOrigin origin → Stops (allBut '/') (x ++ origin).getLast? := by
    rintro x _ ⟨c, scheme, rfl, -⟩
    rw [show x ++ c :: (scheme ++ "://".toList) = (x ++ c :: (scheme ++ ":/".toList)) ++ ['/'] by simp]
    exact .last (List.cons_ne_nil _ _) (by simp [allBut, CharSet.contains, contains_single])
  rw [← List.append_assoc, ← List.append_assoc] at h
  exact (over_unique_last (over_allBut.2 hw) (over_allBut.2 hw') (hstops horigin) (hstops horigin') h).2

/-! ## What the rule leaves -/

variable {text secret : List Char} {as₁ as₂ : List Atom}

theorem Login.not_mem (h : Login origin user password) : '@' ∉ origin ++ (user ++ ':' :: password) := by
  obtain ⟨x, scheme, rfl, hx, hscheme⟩ := h.isOrigin
  have hletter : '@' ≠ x := by
    rintro rfl
    exact absurd hx (by decide)
  simp [hletter, hscheme.not_mem (x := '@') rfl, h.over_user.not_mem (x := '@') rfl,
    h.over_password.not_mem (x := '@') rfl]

/-- A URL that begins inside another one ends with the same password. -/
theorem Login.password_eq {origin' user' password' u x y : List Char} (h : Login origin user password)
    (h' : Login origin' user' password') (hu : '@' ∉ u)
    (heq : (u ++ (origin ++ (user ++ ':' :: password))) ++ '@' :: x =
      (origin' ++ (user' ++ ':' :: password')) ++ '@' :: y) :
    password = password' := by
  have hslash : ∀ {origin user password}, Login origin user password → '/' ∉ user ++ ':' :: password := by
    intro origin user password h
    simp [h.over_user.not_mem (x := '/') rfl, h.over_password.not_mem (x := '/') rfl]
  have hfront : '@' ∉ u ++ (origin ++ (user ++ ':' :: password)) := fun hmem =>
    (List.mem_append.1 hmem).elim hu h.not_mem
  have hstops : ∀ z : List Char, Stops (allBut '@') ('@' :: z).head? := fun _ => stops_allBut '@'
  obtain ⟨hlogins, -⟩ := over_unique (over_allBut.2 hfront) (over_allBut.2 h'.not_mem) (hstops x) (hstops y) heq
  have hbehind := origin_unique (y := []) h.isOrigin h'.isOrigin (hslash h) (hslash h') hlogins
  obtain ⟨-, hpassword⟩ := over_unique h.over_user h'.over_user (.some rfl) (.some rfl) hbehind
  exact (List.cons.inj hpassword).2

theorem login_of_hidden (has : urlCredentialsRule.atoms text = as₁ ++ .hidden secret :: as₂) :
    ∃ as₀ origin user as₃, as₁ = as₀ ++ (origin ++ (user ++ [':'])).map .kept ∧ as₂ = .kept '@' :: as₃ ∧
      Login origin user secret ∧ secret ≠ marker.toList := by
  obtain ⟨as₀, _, _, as₃, rfl, rfl, htile⟩ := ContentRule.tile_of_atoms has
  obtain ⟨hit, front, back, rfl, rfl, hmatch, haims, hmarker, -⟩ := htile.hidden_inv
  obtain ⟨origin, user, secret', hlogin, haims'⟩ := urlCredentials_hit hmatch
  obtain ⟨rfl, rfl, rfl⟩ := haims.unique haims'
  exact ⟨as₀, origin, user, as₃, rfl, rfl, hlogin, hmarker⟩

/-- A URL that the rule keeps has its password hidden already. -/
theorem Login.eq_marker_of_kept (h : Login origin user password) (has : urlCredentialsRule.atoms text =
    as₁ ++ ((origin ++ (user ++ ':' :: (password ++ ['@']))).map .kept ++ as₂)) : password = marker.toList := by
  obtain ⟨x, origin, rfl, hx⟩ := h.isOrigin.head
  rw [List.cons_append, List.map_cons, List.cons_append] at has
  obtain ⟨as₀, _, _, as₃, rfl, htail, htile⟩ := ContentRule.tile_of_atoms has
  rcases htile.kept_inv with ⟨rfl, rfl, hnone⟩ | ⟨hit, u, v, rfl, rfl, hhit, hmatch, hveto⟩ |
    ⟨hit, u, v, secret, back, rfl, rfl, hmatch, haims⟩ | ⟨hit, front, secret, u, v, rfl, rfl, hmatch, haims⟩
  · -- There would be a match.
    obtain rfl := (htail : _ = as₃)
    rw [textOf_append, textOf_map_kept, ← List.cons_append] at hnone
    refine absurd (accepts_urlCredentials.2 ⟨x :: origin, user, password, rfl, h⟩)
      (not_accepts_of_matchAt hnone fun {prev w next} haccepts => ?_)
    obtain ⟨_, _, _, rfl, h⟩ := accepts_urlCredentials.1 haccepts
    simp
  · obtain ⟨origin', user', password', h', haims⟩ := urlCredentials_hit hmatch
    have hveto : password' = marker.toList := by simpa [urlCredentialsRule] using hveto _ _ _ haims
    have hhit' : u ++ x :: v = (origin' ++ (user' ++ ':' :: password')) ++ ['@'] := by
      rw [← hhit, haims.text]
      simp
    have hu : '@' ∉ u := by
      have hlast := congrArg List.dropLast hhit'
      rw [List.dropLast_append_cons, List.dropLast_concat] at hlast
      exact fun hmem => h'.not_mem (hlast ▸ List.mem_append_left _ hmem)
    have htext : origin ++ (user ++ ':' :: (password ++ '@' :: textOf as₂)) = v ++ textOf as₃ := by
      simpa using congrArg textOf htail
    rw [← hveto]
    refine h.password_eq h' hu (x := textOf as₂) (y := textOf as₃) ?_
    calc (u ++ (x :: origin ++ (user ++ ':' :: password))) ++ '@' :: textOf as₂
      _ = u ++ x :: (origin ++ (user ++ ':' :: (password ++ '@' :: textOf as₂))) := by simp
      _ = (u ++ x :: v) ++ textOf as₃ := by rw [htext]; simp
      _ = (origin' ++ (user' ++ ':' :: password')) ++ '@' :: textOf as₃ := by rw [hhit']; simp
  · obtain ⟨origin', user', password', h', haims'⟩ := urlCredentials_hit hmatch
    obtain ⟨hfront, rfl, rfl⟩ := haims.unique haims'
    obtain ⟨e, rfl⟩ := map_kept_prefix (htail.trans (List.append_assoc ..))
    have hmem : '@' ∈ (origin' ++ (user' ++ [':'])) ++ secret := by simp [← hfront]
    exact absurd (by simpa using hmem) h'.not_mem
  · obtain ⟨origin', user', password', h', haims'⟩ := urlCredentials_hit hmatch
    obtain ⟨-, -, hback⟩ := haims.unique haims'
    have hmem : x ∈ ['@'] := by
      rw [← hback]
      simp
    obtain rfl := List.mem_singleton.1 hmem
    exact absurd hx (by decide)

/-- The rule for passwords of URLs leaves nothing that it would hide. -/
theorem urlCredentialsRule_free : urlCredentialsRule.hitCount (urlCredentialsRule.apply text) = 0 := by
  refine ContentRule.hitCount_eq_zero fun bs₁ password bs₂ hbs => ?_
  obtain ⟨bs₀, origin, user, bs₃, rfl, rfl, hlogin, hmarker⟩ := login_of_hidden hbs
  apply hmarker
  have hshown : shownOf (urlCredentialsRule.atoms text) =
      textOf bs₀ ++ (origin ++ (user ++ ':' :: (password ++ '@' :: textOf bs₃))) := by
    rw [ContentRule.shownOf_atoms, ContentRule.text_of_hidden hbs]
    simp
  obtain ⟨as₁, as₂, has, -, hbehind⟩ := locate hlogin.isOrigin.unmarked hshown
  have hsplit : shownOf as₂ = (user ++ ':' :: (password ++ ['@'])) ++ textOf bs₃ := by rw [← hbehind]; simp
  rcases shown_cases hsplit with ⟨as₃, rfl, -⟩ | ⟨k, x, k', secret, as₃, hk, rfl⟩
  · have hkept : urlCredentialsRule.atoms text =
        as₁ ++ ((origin ++ (user ++ ':' :: (password ++ ['@']))).map .kept ++ as₃) := by
      simp [has]
    exact hlogin.eq_marker_of_kept hkept
  · -- The password hidden there stands behind the same user.
    have hhidden : urlCredentialsRule.atoms text = (as₁ ++ (origin ++ k).map .kept) ++ .hidden secret :: as₃ := by
      rw [has, List.map_append]
      simp
    obtain ⟨as₀, origin', user', as₄, hfront, rfl, hlogin', -⟩ := login_of_hidden hhidden
    have hslash : '/' ∉ user ++ ':' :: (password ++ ['@']) := by
      simp [hlogin.over_user.not_mem (x := '/') rfl, hlogin.over_password.not_mem (x := '/') rfl]
    have hslash' : '/' ∉ user' ++ [':'] := by simp [hlogin'.over_user.not_mem (x := '/') rfl]
    obtain rfl : k = user' ++ [':'] := origin_unique hlogin.isOrigin hlogin'.isOrigin
      (fun h => hslash (hk ▸ List.mem_append_left _ h)) hslash' (by simpa using congrArg textOf hfront)
    rw [shownOf_append, shownOf_map_kept, shownOf_hidden, shownOf_kept, List.append_assoc, List.singleton_append]
      at hbehind
    exact password_unique hlogin.over_user hlogin'.over_user hlogin.over_password (by decide) hbehind

end Periscope.Redaction
