import Periscope.Proofs.Cache.Monotone

/-!
# Fetches

Only the holder of the lock fetches, and only after it has looked at the cache and found nothing fresh. Nothing
becomes fresh until it has stored what it fetches. So there is one fetch at a time and none that is not needed,
and callers of an empty cache share the first one.
-/

namespace Periscope.Cache

/-- The holder of the lock has found nothing fresh and has not yet stored what it fetches. -/
def Phase.isLoading : Phase → Bool
  | .missed | .fetching | .fetched _ => true
  | .locked | .done _ => false

/-- No snapshot that is stored is fresh. -/
def State.NothingFresh (s : State) : Prop :=
  ∀ stored loadedAt, s.stored = some stored → stored.loadedAt = some loadedAt → s.isFresh loadedAt = false

/-- While the holder of the lock is loading, nothing that is stored is fresh. -/
def State.Lacking (s : State) : Prop := ∀ h, s.holder = some h → h.phase.isLoading → s.NothingFresh

section

variable {s s' : State} {e : Event} {a : Option Answer} {p : Published}

/-! ## One fetch at a time -/

theorem Step.of_fetch (h : Step s .fetch s' a) :
    ∃ caller, s.holder = some ⟨caller, .missed⟩ ∧ s'.holder = some ⟨caller, .fetching⟩ ∧
      s'.fetches = s.fetches + 1 := by
  cases h with
  | fetch here => exact ⟨_, here, rfl, rfl⟩

/-- A fetch stays in flight until it answers or its caller gives up. -/
theorem Step.fetching_stays {caller : Option Nat} (h : Step s e s' a)
    (held : s.holder = some ⟨caller, .fetching⟩) (silent : ∀ result, e ≠ .deliver result)
    (kept : ∀ c, caller = some c → e ≠ .drop c) : s'.holder = some ⟨caller, .fetching⟩ := by
  cases h with
  | spawn => simp [held]
  | take _ free => cases held.symm.trans free
  | recheckFresh here | recheckMissed here | fetch here | publish here | release here =>
    cases held.symm.trans here
  | deliver => exact absurd rfl (silent _)
  | dropHolder _ _ here =>
    cases held.symm.trans here
    exact absurd rfl (kept _ rfl)
  | _ => exact held

/-! ## No fetch without need -/

theorem lookup_eq_fresh {stored : Stored} {loadedAt : Nat} (here : s.stored = some stored)
    (valid : stored.loadedAt = some loadedAt) (fresh : s.isFresh loadedAt) :
    s.lookup = .fresh stored.published := by
  simp only [State.lookup, here, valid, fresh, ↓reduceIte]

theorem nothingFresh_of_lookup (missed : ∀ p, s.lookup ≠ .fresh p) : s.NothingFresh := by
  intro stored loadedAt here valid
  rw [← Bool.not_eq_true]
  exact fun fresh => missed _ (lookup_eq_fresh here valid fresh)

theorem nothingFresh_expire (s : State) : s.expire.NothingFresh := by
  intro stored loadedAt here valid
  obtain ⟨before, -, rfl⟩ := Option.map_eq_some_iff.1 here
  cases valid

theorem State.NothingFresh.later (h : s.NothingFresh) (time : Nat) :
    { s with now := s.now + time }.NothingFresh := by
  intro stored loadedAt here valid
  have before := h stored loadedAt here valid
  unfold State.isFresh at before ⊢
  cases limit : s.lifetime with
  | none => simp [limit] at before
  | some lifetime =>
    simp only [limit, Option.all_some, decide_eq_false_iff_not] at before ⊢
    omega

theorem lacking_of_free (free : s.holder = none) : s.Lacking := by
  intro h held
  cases free.symm.trans held

theorem Step.lacking (h : Step s e s' a) (lacking : s.Lacking) : s'.Lacking := by
  intro holder held loading
  -- a loading phase begins with a look that finds nothing fresh, and only its end makes something fresh
  cases h with
  | spawn =>
    cases before : s.holder with
    | none =>
      obtain rfl : ⟨none, .locked⟩ = holder := by simpa [before] using held
      cases loading
    | some _ => exact lacking holder (by simpa [before] using held) loading
  | recheckMissed _ missed => exact nothingFresh_of_lookup missed
  | fetch here | deliver here => exact lacking _ here rfl
  | take | recheckFresh | publish => cases held; cases loading
  | release | dropHolder =>
    rw [State.locked_of_handOver held] at loading
    cases loading
  | invalidate => exact nothingFresh_expire s
  | pass => exact (lacking holder held loading).later _
  | _ => exact lacking holder held loading

theorem Step.nothingFresh_of_fetch (h : Step s .fetch s' a) (lacking : s.Lacking) : s.NothingFresh := by
  obtain ⟨caller, held, -⟩ := h.of_fetch
  exact lacking _ held rfl

end

/-! ## The first load -/

/-- Nothing has been fetched. -/
def State.Untouched (s : State) : Prop := s.stored = none ∧ s.fetches = 0

/-- One fetch has begun, and nothing is stored yet. -/
def State.Loading (s : State) : Prop := s.stored = none ∧ s.fetches = 1

/-- One fetch has begun, and a snapshot is stored and not invalidated. -/
def State.Loaded (s : State) : Prop :=
  (∃ stored, s.stored = some stored ∧ stored.loadedAt ≠ none) ∧ s.fetches = 1

/-- How far a first load that brings a snapshot has come, as the phase of the holder of the lock tells. -/
def State.FirstLoadIn (s : State) : Option Phase → Prop
  | none | some .locked => s.Untouched ∨ s.Loaded
  | some .missed => s.Untouched
  | some .fetching => s.Loading
  | some (.fetched result) => s.Loading ∧ ∃ snapshot, result = .ok snapshot
  | some (.done _) => s.Loaded

/-- The first load brings a snapshot if it comes to its end. -/
def State.FirstLoad (s : State) : Prop := s.FirstLoadIn (s.holder.map Holder.phase)

/-- The event leaves the first load alone: nobody gives up, nothing is invalidated, and the first fetch brings a
snapshot if it answers. -/
structure Event.Calm (s : State) (e : Event) : Prop where
  kept : ∀ c, e ≠ .drop c
  valid : e ≠ .invalidate
  loads : ∀ result, e = .deliver result → s.fetches = 1 → ∃ snapshot, result = .ok snapshot

section

variable {s s' : State} {e : Event} {a : Option Answer} {c : Nat} {p : Published}

theorem State.FirstLoad.at_phase {caller : Option Nat} {phase : Phase} (load : s.FirstLoad)
    (here : s.holder = some ⟨caller, phase⟩) : s.FirstLoadIn (some phase) := by
  unfold State.FirstLoad at load
  rwa [here] at load

theorem State.FirstLoad.of_free (load : s.FirstLoad) (free : s.holder = none) : s.FirstLoadIn none := by
  unfold State.FirstLoad at load
  rwa [free] at load

theorem Step.firstLoad (h : Step s e s' a) (calm : e.Calm s) (unexpired : ∀ p, s.lookup ≠ .stale p)
    (load : s.FirstLoad) : s'.FirstLoad := by
  cases h with
  | spawn =>
    cases held : s.holder with
    | none => exact load.of_free held
    | some holder => exact load.at_phase held
  | take _ free => exact load.of_free free
  | recheckFresh here fresh =>
    rcases load.at_phase here with ⟨empty, -⟩ | loaded
    · simp [State.lookup, empty] at fresh
    · exact loaded
  | recheckMissed here missed =>
    rcases load.at_phase here with untouched | ⟨⟨stored, here, valid⟩, -⟩
    · exact untouched
    · have hit := hit_of_valid here valid
      cases found : s.lookup with
      | fresh p => exact absurd found (missed p)
      | stale p => exact absurd found (unexpired p)
      | missing => simp [found, Lookup.hit?] at hit
  | fetch here =>
    obtain ⟨empty, begun⟩ := load.at_phase here
    exact ⟨empty, congrArg (· + 1) begun⟩
  | deliver here =>
    have loading : s.Loading := load.at_phase here
    exact ⟨loading, calm.loads _ rfl loading.2⟩
  | publish here =>
    obtain ⟨⟨-, begun⟩, snapshot, rfl⟩ := load.at_phase here
    exact ⟨⟨_, rfl, Option.some_ne_none _⟩, begun⟩
  | release here =>
    have loaded : s.Loaded := load.at_phase here
    unfold State.handOver
    split <;> exact .inr loaded
  | dropCaller | dropWaiting | dropHolder => exact absurd rfl (calm.kept _)
  | invalidate => exact absurd rfl calm.valid
  | _ => exact load

/-! ## The snapshot of the first load -/

/-- The snapshot that is stored. -/
def State.snapshot? (s : State) : Option Published := s.stored.map Stored.published

/-- All that callers are about to return is the stored snapshot. -/
def State.Shared (s : State) : Prop :=
  ∀ c result, Settled s c result → ∃ p, s.snapshot? = some p ∧ result = .ok p

theorem snapshot?_of_hit (h : s.lookup.hit? = some p) : s.snapshot? = some p := by
  obtain ⟨stored, here, rfl⟩ := stored_of_hit h
  simp [State.snapshot?, here]

theorem State.FirstLoad.fetches_eq_one (load : s.FirstLoad) (h : s.snapshot? = some p) : s.fetches = 1 := by
  have stored : s.stored ≠ none := fun empty => by simp [State.snapshot?, empty] at h
  unfold State.FirstLoad at load
  cases here : s.holder.map Holder.phase with
  | none =>
    rw [here] at load
    exact (load.resolve_left fun untouched => stored untouched.1).2
  | some phase =>
    rw [here] at load
    cases phase with
    | locked => exact (load.resolve_left fun untouched => stored untouched.1).2
    | missed => exact absurd load.1 stored
    | fetching => exact load.2
    | fetched => exact load.1.2
    | done => exact load.2

/-- Once a snapshot is stored it stays. -/
theorem Step.snapshot?_eq (h : Step s e s' a) (load : s.FirstLoad) (kept : s.snapshot? = some p) :
    s'.snapshot? = some p := by
  by_cases publish : e = .publish
  · subst publish
    cases h with
    | publish here =>
      obtain ⟨⟨empty, -⟩, -⟩ := load.at_phase here
      simp [State.snapshot?, empty] at kept
  · rcases h.stored_origin publish with same | expired
    · exact (congrArg (Option.map Stored.published) same).trans kept
    · refine (congrArg (Option.map Stored.published) expired).trans ?_
      obtain ⟨stored, here, rfl⟩ := Option.map_eq_some_iff.1 kept
      simp [State.expire, here]

theorem Step.shared (h : Step s e s' a) (load : s.FirstLoad) (shared : s.Shared) : s'.Shared := by
  intro c result settled
  rcases h.settled_origin settled with before | ⟨p, hit, rfl⟩ | ⟨fetched, held, answer, rfl⟩
  · obtain ⟨p, here, rfl⟩ := shared c result before
    exact ⟨p, h.snapshot?_eq load here, rfl⟩
  · exact ⟨p, h.snapshot?_eq load (snapshot?_of_hit hit), rfl⟩
  · obtain ⟨-, snapshot, rfl⟩ := load.at_phase held
    exact ⟨_, rfl, answer.symm⟩

theorem Step.shared_answer {result : Except DiscoveryError Published} (h : Step s e s' (some ⟨c, result⟩))
    (shared : s.Shared) : ∃ p, s.snapshot? = some p ∧ result = .ok p := by
  rcases h.answer_origin with settled | ⟨p, hit, rfl⟩
  · exact shared c result settled
  · exact ⟨p, snapshot?_of_hit hit, rfl⟩

theorem Step.fetches_eq (h : Step s e s' a) (other : e ≠ .fetch) : s'.fetches = s.fetches := by
  cases h with
  | fetch => exact absurd rfl other
  | release | dropHolder => unfold State.handOver; split <;> rfl
  | @publish _ result =>
    unfold State.store
    cases result with
    | ok => rfl
    | error => cases s.stored <;> rfl
  | _ => rfl

end

/-! ## Executions -/

namespace Execution

variable {r : Execution} {c j m m' n : Nat} {p : Published} {result : Except DiscoveryError Published}
  {lifetime : Option Nat}

/-- The fetch that begins with event `m` is in flight before event `n`: it has not answered, and the caller that
makes it has not given up. -/
def Underway (r : Execution) (m n : Nat) : Prop :=
  m < n ∧ r.event m = .fetch ∧ ∀ k, m < k → k < n →
    (∀ result, r.event k ≠ .deliver result) ∧ ∀ c, (r.state m).isHeldBy c → r.event k ≠ .drop c

/-- Nothing disturbs the first load, and the snapshot that it brings does not expire. -/
structure Undisturbed (r : Execution) : Prop where
  calm : ∀ n, (r.event n).Calm (r.state n)
  unexpired : ∀ n p, (r.state n).lookup ≠ .stale p

theorem Underway.earlier (h : r.Underway m n) (began : m < m') (before : m' ≤ n) : r.Underway m m' :=
  ⟨began, h.2.1, fun k after earlier => h.2.2 k after (Nat.lt_of_lt_of_le earlier before)⟩

theorem Underway.held (h : r.Underway m n) : ∃ caller, (r.state n).holder = some ⟨caller, .fetching⟩ := by
  obtain ⟨began, fetch, open'⟩ := h
  obtain ⟨caller, before, held, -⟩ := (step_at fetch).of_fetch
  refine ⟨caller, ?_⟩
  induction began with
  | refl => exact held
  | @step n began ih =>
    obtain ⟨silent, kept⟩ := open' n began (Nat.lt_succ_self n)
    refine (r.step n).fetching_stays (ih fun k after earlier => open' k after (Nat.lt_succ_of_lt earlier)) silent ?_
    rintro c rfl
    exact kept c (by simp [State.isHeldBy, before])

theorem Underway.not_fetch (h : r.Underway m n) : r.event n ≠ .fetch := by
  intro fetch
  obtain ⟨_, held⟩ := h.held
  obtain ⟨_, missed, -⟩ := (step_at fetch).of_fetch
  cases held.symm.trans missed

theorem Underway.unique (h : r.Underway m n) (h' : r.Underway m' n) : m = m' := by
  rcases Nat.lt_trichotomy m m' with before | same | after
  · exact absurd h'.2.1 (h.earlier before (Nat.le_of_lt h'.1)).not_fetch
  · exact same
  · exact absurd h.2.1 (h'.earlier after (Nat.le_of_lt h.1)).not_fetch

theorem lacking (start : (r.state 0).Initial) (n : Nat) : (r.state n).Lacking :=
  always (lacking_of_free start.rest.2) (fun h => h.lacking) n (Nat.zero_le n)

/-! ## Callers of an empty cache -/

theorem Undisturbed.firstLoad (h : r.Undisturbed) (start : r.state 0 = .empty lifetime) (n : Nat) :
    (r.state n).FirstLoad := by
  induction n with
  | zero =>
    rw [start]
    exact .inl ⟨rfl, rfl⟩
  | succ n ih => exact (r.step n).firstLoad (h.calm n) (h.unexpired n) ih

theorem Undisturbed.shared (h : r.Undisturbed) (start : r.state 0 = .empty lifetime) (n : Nat) :
    (r.state n).Shared := by
  induction n with
  | zero =>
    rw [start]
    rintro c result (here | here) <;> cases here
  | succ n ih => exact (r.step n).shared (h.firstLoad start n) ih

theorem Undisturbed.snapshot?_eq (h : r.Undisturbed) (start : r.state 0 = .empty lifetime)
    (here : (r.state m).snapshot? = some p) (later : m ≤ n) : (r.state n).snapshot? = some p := by
  induction later with
  | refl => exact here
  | @step n _ ih => exact (r.step n).snapshot?_eq (h.firstLoad start n) ih

theorem Undisturbed.returns (h : r.Undisturbed) (start : r.state 0 = .empty lifetime)
    (returned : r.Returns c j n result) : ∃ p, (r.state n).snapshot? = some p ∧ result = .ok p :=
  (step_of_answer returned.2).shared_answer (h.shared start n)

theorem fetches_eq_of_no_fetch (none' : ∀ m, m < n → r.event m ≠ .fetch) :
    (r.state n).fetches = (r.state 0).fetches := by
  induction n with
  | zero => rfl
  | succ n ih =>
    have same := (r.step n).fetches_eq (none' n (Nat.lt_succ_self n))
    exact same.trans (ih fun m before => none' m (Nat.lt_succ_of_lt before))

/-- Only the first fetch finds that none has begun. -/
theorem Undisturbed.not_fetch (h : r.Undisturbed) (start : r.state 0 = .empty lifetime)
    (fetch : r.event m = .fetch) (later : m < n) : r.event n ≠ .fetch := by
  intro again
  obtain ⟨_, -, -, begun⟩ := (step_at fetch).of_fetch
  obtain ⟨_, held, -⟩ := (step_at again).of_fetch
  have untouched : (r.state n).Untouched := (h.firstLoad start n).at_phase held
  have some' : 0 < (r.state n).fetches := by
    refine always (P := fun s => 0 < s.fetches) (m := m + 1) (by omega) (fun {s s' e a} step before => ?_) n later
    by_cases other : e = .fetch
    · subst other
      obtain ⟨_, -, -, more⟩ := step.of_fetch
      omega
    · rwa [step.fetches_eq other]
  exact absurd untouched.2 (Nat.ne_of_gt some')

theorem Undisturbed.fetched (h : r.Undisturbed) (start : r.state 0 = .empty lifetime)
    (returned : r.Returns c j n result) : ∃ m, m < n ∧ r.event m = .fetch := by
  obtain ⟨p, here, -⟩ := h.returns start returned
  have one := (h.firstLoad start n).fetches_eq_one here
  refine Classical.byContradiction fun none' => ?_
  have same := fetches_eq_of_no_fetch fun m before fetch => none' ⟨m, before, fetch⟩
  rw [one, start] at same
  cases same

theorem Undisturbed.same_answer {c' j' n' : Nat} {result' : Except DiscoveryError Published} (h : r.Undisturbed)
    (start : r.state 0 = .empty lifetime) (returned : r.Returns c j n result)
    (returned' : r.Returns c' j' n' result') : result = result' := by
  obtain ⟨p, here, rfl⟩ := h.returns start returned
  obtain ⟨p', here', rfl⟩ := h.returns start returned'
  rcases Nat.le_total n n' with later | later
  · exact congrArg Except.ok (Option.some.inj ((h.snapshot?_eq start here later).symm.trans here'))
  · exact congrArg Except.ok (Option.some.inj (here.symm.trans (h.snapshot?_eq start here' later)))

end Execution

open Execution in
/-- At most one fetch is in flight, and none begins while a snapshot is stored that has been loaded or confirmed
within its lifetime and is not invalidated. So if the first fetch of an empty cache brings a snapshot, and nobody
gives up and nothing is invalidated or expires, then there is no second fetch, and one snapshot is what every call
gets that returns, which no call does before the fetch. If the execution is fair all of them return. -/
theorem fetches_exclusive_and_needed {r : Execution} (start : (r.state 0).Initial) :
    (∀ m m' n, r.Underway m n → r.Underway m' n → m = m') ∧
    (∀ n stored loadedAt, r.event n = .fetch → (r.state n).stored = some stored →
      stored.loadedAt = some loadedAt →
        ∃ lifetime, (r.state n).lifetime = some lifetime ∧ lifetime ≤ (r.state n).now - loadedAt) ∧
    ∀ lifetime, r.state 0 = .empty lifetime → r.Undisturbed →
      (∀ m m', r.event m = .fetch → r.event m' = .fetch → m = m') ∧
      ∃ p, (∀ c j n result, r.Returns c j n result → result = .ok p ∧ ∃ m, m < n ∧ r.event m = .fetch) ∧
        (r.Fair → ∀ c j, r.event j = .call c → ∃ n, r.Returns c j n (.ok p)) := by
  refine ⟨fun m m' n => Underway.unique, fun n stored loadedAt fetch here valid => ?_,
    fun lifetime empty calm => ⟨fun m m' fetch fetch' => ?_, ?_⟩⟩
  · have expired := (step_at fetch).nothingFresh_of_fetch (lacking start n) stored loadedAt here valid
    unfold State.isFresh at expired
    cases limit : (r.state n).lifetime with
    | none => simp [limit] at expired
    | some lifetime => exact ⟨lifetime, rfl, by simpa [limit] using expired⟩
  · rcases Nat.lt_trichotomy m m' with before | same | after
    · exact absurd fetch' (calm.not_fetch empty fetch before)
    · exact same
    · exact absurd fetch (calm.not_fetch empty fetch' after)
  · -- where no call returns there is no snapshot to name, and then no execution that has a call is fair
    have ends (fair : r.Fair) {c j : Nat} (call : r.event j = .call c) : ∃ n result, r.Returns c j n result := by
      rcases fair.call_ends call with ⟨n, dropped⟩ | returned
      · exact absurd dropped.2 ((calm.calm n).kept c)
      · exact returned
    by_cases some' : ∃ c j n result, r.Returns c j n result
    · obtain ⟨c, j, n, result, returned⟩ := some'
      obtain ⟨p, -, rfl⟩ := calm.returns empty returned
      refine ⟨p, fun c' j' n' result' returned' => ?_, fun fair c' j' call => ?_⟩
      · exact ⟨calm.same_answer empty returned' returned, calm.fetched empty returned'⟩
      · obtain ⟨n', result', returned'⟩ := ends fair call
        exact ⟨n', calm.same_answer empty returned' returned ▸ returned'⟩
    · refine ⟨⟨0, ⟨[], []⟩⟩, fun c j n result returned => absurd ⟨c, j, n, result, returned⟩ some',
        fun fair c j call => ?_⟩
      obtain ⟨n, result, returned⟩ := ends fair call
      exact absurd ⟨c, j, n, result, returned⟩ some'

/-- Three callers find an empty cache. The second and the third come while the first holds the lock. -/
def rush : Execution :=
  ((Execution.follow (.empty (some 60))
    [.call 1, .look 1, .ask 1, .call 2, .look 2, .recheck, .ask 2, .call 3, .look 3, .fetch, .ask 3,
      .deliver (.ok ⟨[], []⟩), .publish, .release, .recheck, .release, .recheck, .release]).get rfl).1

theorem rush_undisturbed : rush.Undisturbed where
  calm
    | 11 => ⟨nofun, nofun, fun _ answer _ => ⟨_, (Event.deliver.inj answer).symm⟩⟩
    | 0 | 1 | 2 | 3 | 4 | 5 | 6 | 7 | 8 | 9 | 10 | 12 | 13 | 14 | 15 | 16 | 17 | _ + 18 => ⟨nofun, nofun, nofun⟩
  unexpired
    | 0, _ | 1, _ | 2, _ | 3, _ | 4, _ | 5, _ | 6, _ | 7, _ | 8, _ | 9, _ | 10, _ | 11, _ | 12, _ => nofun
    | 13, _ | 14, _ | 15, _ | 16, _ | 17, _ | _ + 18, _ => nofun

theorem fetches_exclusive_and_needed_rush :
    (rush.state 0).Initial ∧ rush.Undisturbed ∧ rush.Fair ∧ rush.Underway 9 11 ∧
      (∀ m, rush.Underway m 11 → m = 9) ∧ (∀ m, rush.event m = .fetch → m = 9) ∧
      (∃ p, (∃ n, rush.Returns 1 0 n (.ok p)) ∧ (∃ n, rush.Returns 2 3 n (.ok p)) ∧
        ∃ n, rush.Returns 3 7 n (.ok p)) ∧
      (expiry.state 0).Initial ∧ expiry.event 13 = .fetch ∧
      ∃ lifetime, (expiry.state 13).lifetime = some lifetime ∧ lifetime ≤ (expiry.state 13).now - 0 := by
  have start : (rush.state 0).Initial := .empty (some 60)
  have fair : rush.Fair := by
    refine Execution.fair_of_rest (N := 18) fun n later => ?_
    obtain ⟨k, rfl⟩ := Nat.exists_eq_add_of_le' later
    exact ⟨rfl, rfl⟩
  have underway : rush.Underway 9 11 := by
    refine ⟨by decide, rfl, fun k after before => ?_⟩
    obtain rfl : k = 10 := by omega
    exact ⟨nofun, nofun⟩
  obtain ⟨exclusive, -, shared⟩ := fetches_exclusive_and_needed start
  obtain ⟨once, p, -, returns⟩ := shared (some 60) rfl rush_undisturbed
  have start' : (expiry.state 0).Initial := .empty (some 60)
  have needed := (fetches_exclusive_and_needed start').2.1 13 ⟨⟨0, ⟨[], []⟩⟩, some 0⟩ 0 rfl rfl rfl
  exact ⟨start, rush_undisturbed, fair, underway, fun m other => exclusive m 9 11 other underway,
    fun m fetch => once m 9 fetch rfl, ⟨p, returns fair 1 0 rfl, returns fair 2 3 rfl, returns fair 3 7 rfl⟩,
    start', rfl, needed⟩

end Periscope.Cache
