import Mathlib.Data.Fintype.EquivFin
import Periscope.Cache.Schedule
import Periscope.Proofs.Cache.Monotone

/-!
# What an invalidation is worth

An invalidation marks the stored snapshot and nothing else. A fetch in flight does not learn of it: when its
result is stored, the mark is gone, and calls are answered from what had been asked for before. The
invalidation is kept exactly if there is no such fetch.
-/

namespace Periscope.Cache

/-- A fetch has begun whose result can still be stored. -/
def State.InFlight (s : State) : Prop :=
  ∃ caller, s.holder = some ⟨caller, .fetching⟩ ∨
    ∃ result, s.holder = some ⟨caller, .fetched result⟩ ∧
      (s.stored ≠ none ∨ ∃ snapshot, result = .ok snapshot)

/-- A fetch that begins after event `i` has answered before event `n`. -/
def Execution.Refetched (r : Execution) (i n : Nat) : Prop :=
  ∃ m m' result, i < m ∧ m < m' ∧ m' < n ∧ r.event m = .fetch ∧ r.event m' = .deliver result

/-- Nothing that the cache holds, or is about to store, can be returned. -/
structure Spent (s : State) : Prop where
  invalid : ∀ stored, s.stored = some stored → stored.loadedAt = none
  fetched : ∀ caller result, s.holder = some ⟨caller, .fetched result⟩ →
    s.stored = none ∧ ∃ e, result = .error e

/-- The caller has nothing to return and is not about to store anything. -/
structure EmptyHanded (s : State) (c : Nat) : Prop where
  settled : ∀ result, ¬ Settled s c result
  fetched : ∀ result, s.holder ≠ some ⟨some c, .fetched result⟩

section

variable {s s' : State} {e : Event} {a : Option Answer} {c : Nat} {p : Published}

theorem Spent.no_hit (spent : Spent s) : s.lookup.hit? ≠ some p := by
  intro hit
  unfold State.lookup at hit
  split at hit
  · cases hit
  · next stored here => simp [spent.invalid stored here, Lookup.hit?] at hit

theorem Spent.expire (h : ¬ s.InFlight) : Spent s.expire where
  invalid stored here := by
    obtain ⟨before, -, rfl⟩ := Option.map_eq_some_iff.1 here
    rfl
  fetched caller result held := by
    have held : s.holder = some ⟨caller, .fetched result⟩ := held
    cases result with
    | ok snapshot => exact absurd ⟨caller, .inr ⟨_, held, .inr ⟨snapshot, rfl⟩⟩⟩ h
    | error e =>
      cases here : s.stored with
      | none => exact ⟨by simp [State.expire, here], e, rfl⟩
      | some stored => exact absurd ⟨caller, .inr ⟨_, held, .inl (by simp [here])⟩⟩ h

/-! ## Steps -/

/-- Until a fetch answers, what cannot be returned stays so. -/
theorem Step.spent (h : Step s e s' a) (silent : ∀ result, e ≠ .deliver result) (spent : Spent s) :
    Spent s' where
  invalid stored here := by
    -- a failed first load is all that can be published, and it stores nothing
    by_cases publish : e = .publish
    · subst publish
      cases h with
      | publish held =>
        obtain ⟨empty, e, rfl⟩ := spent.fetched _ _ held
        simp [State.store, State.holdAs, empty] at here
    · rcases h.stored_origin publish with same | expired
      · exact spent.invalid stored (same ▸ here)
      · obtain ⟨before, -, rfl⟩ := Option.map_eq_some_iff.1 (expired ▸ here)
        rfl
  fetched caller result held := by
    rcases h.fetched_origin held with before | deliver
    · obtain ⟨empty, error⟩ := spent.fetched _ _ before
      refine ⟨?_, error⟩
      rcases h.stored_origin (by rintro rfl; cases h; cases held) with same | expired
      · exact same.trans empty
      · exact expired.trans (by simp [State.expire, empty])
    · exact absurd deliver (silent result)

/-- Until a fetch answers, a caller gets nothing from a cache that holds nothing to return. -/
theorem Step.emptyHanded (h : Step s e s' a) (silent : ∀ result, e ≠ .deliver result) (spent : Spent s)
    (before : EmptyHanded s c) : EmptyHanded s' c where
  settled result settled := by
    rcases h.settled_origin settled with earlier | ⟨p, hit, -⟩ | ⟨fetched, held, -⟩
    · exact before.settled result earlier
    · exact spent.no_hit hit
    · exact before.fetched fetched held
  fetched result held := by
    rcases h.fetched_origin held with earlier | deliver
    · exact before.fetched result earlier
    · exact silent result deliver

theorem Step.emptyHanded_of_call (h : Step s (.call c) s' a) : EmptyHanded s' c where
  settled _ := h.not_settled_of_call
  fetched result held := by
    cases h with
    | call idle => exact (State.isEngaged_eq_false_iff.1 idle).2.2 _ held

end

/-! ## Executions -/

namespace Execution

variable {r : Execution} {c i j n : Nat} {result : Except DiscoveryError Published}

theorem Refetched.mono {m : Nat} (h : r.Refetched i m) (le : m ≤ n) : r.Refetched i n := by
  obtain ⟨k, k', result, after, next, before, events⟩ := h
  exact ⟨k, k', result, after, next, Nat.lt_of_lt_of_le before le, events⟩

/-- After an invalidation that catches no fetch in flight, a fetch in flight has begun since. -/
theorem begun_since (h : ¬ (r.state i).InFlight) (invalidate : r.event i = .invalidate) (later : i < n)
    {caller : Option Nat} (held : (r.state n).holder = some ⟨caller, .fetching⟩) :
    ∃ m, i < m ∧ m < n ∧ r.event m = .fetch := by
  induction later with
  | refl =>
    rw [(step_at invalidate).of_invalidate] at held
    exact absurd ⟨caller, .inl held⟩ h
  | @step n later ih =>
    rcases (r.step n).fetching_origin held with before | fetch
    · obtain ⟨m, after, before, fetch⟩ := ih before
      exact ⟨m, after, Nat.lt_succ_of_lt before, fetch⟩
    · exact ⟨n, later, Nat.lt_succ_self n, fetch⟩

/-- The first fetch to answer is one that has begun since, and then the cache is refetched. -/
theorem not_deliver (h : ¬ (r.state i).InFlight) (invalidate : r.event i = .invalidate) (later : i < n)
    (waits : ¬ r.Refetched i (n + 1)) (result : Except DiscoveryError Snapshot) :
    r.event n ≠ .deliver result := by
  intro deliver
  obtain ⟨caller, held⟩ := (step_at deliver).of_deliver
  obtain ⟨m, after, before, fetch⟩ := begun_since h invalidate later held
  exact waits ⟨m, n, result, after, before, Nat.lt_succ_self n, fetch, deliver⟩

theorem spent_since (h : ¬ (r.state i).InFlight) (invalidate : r.event i = .invalidate) (later : i < n)
    (waits : ¬ r.Refetched i n) : Spent (r.state n) := by
  induction later with
  | refl => exact (step_at invalidate).of_invalidate ▸ .expire h
  | @step n later ih =>
    have earlier : ¬ r.Refetched i n := fun refetched => waits (refetched.mono (Nat.le_succ n))
    exact (r.step n).spent (not_deliver h invalidate later waits) (ih earlier)

theorem Pending.emptyHanded (pending : r.Pending c j n) (h : ¬ (r.state i).InFlight)
    (invalidate : r.event i = .invalidate) (later : i < j) (waits : ¬ r.Refetched i n) :
    EmptyHanded (r.state n) c := by
  revert waits
  refine pending.induction (P := fun n => ¬ r.Refetched i n → EmptyHanded (r.state n) c)
    (fun _ => (step_at pending.2.1).emptyHanded_of_call) fun n pending _ _ ih waits => ?_
  have earlier : ¬ r.Refetched i n := fun refetched => waits (refetched.mono (Nat.le_succ n))
  have after : i < n := Nat.lt_trans later pending.1
  exact (r.step n).emptyHanded (not_deliver h invalidate after waits)
    (spent_since h invalidate after earlier) (ih earlier)

/-- A call that begins after an invalidation returns once a fetch that has begun since has answered. -/
theorem Returns.refetched (returned : r.Returns c j n result) (h : ¬ (r.state i).InFlight)
    (invalidate : r.event i = .invalidate) (later : i < j) : r.Refetched i n := by
  refine Classical.byContradiction fun waits => ?_
  obtain ⟨pending, answer⟩ := returned
  -- the answer was settled before or is found now, and neither can be
  rcases (step_of_answer answer).answer_origin with settled | ⟨p, hit, -⟩
  · exact (pending.emptyHanded h invalidate later waits).settled result settled
  · exact (spent_since h invalidate (Nat.lt_trans later pending.1) waits).no_hit hit

end Execution

/-! ## Fetches that the invalidation catches in flight -/

/-- From the state a call can return without another fetch. -/
def ServesOn (s : State) : Prop :=
  ∃ r : Execution, r.state 0 = s ∧ (∀ m, r.event m ≠ .fetch) ∧ ∃ c j n result, r.Returns c j n result

theorem Execution.Returns.cons {r : Execution} {s : State} {e : Event} {a : Option Answer} {c j n : Nat}
    {result : Except DiscoveryError Published} (h : r.Returns c j n result)
    (first : s.step? e = some (r.state 0, a)) : (r.cons first).Returns c (j + 1) (n + 1) result := by
  obtain ⟨⟨began, call, open'⟩, answer⟩ := h
  refine ⟨⟨Nat.succ_lt_succ began, call, fun m after before => ?_⟩, answer⟩
  cases m with
  | zero => exact absurd after (Nat.not_lt_zero _)
  | succ m => exact open' m (Nat.lt_of_succ_lt_succ after) (Nat.lt_of_succ_lt_succ before)

theorem ServesOn.before {s s' : State} {e : Event} {a : Option Answer} (h : ServesOn s')
    (first : s.step? e = some (s', a)) (other : e ≠ .fetch) : ServesOn s := by
  obtain ⟨r, rfl, quiet, c, j, n, result, returned⟩ := h
  refine ⟨r.cons first, rfl, fun m => ?_, c, j + 1, n + 1, result, returned.cons first⟩
  cases m with
  | zero => exact other
  | succ m => exact quiet m

theorem exists_idle (s : State) : ∃ c, s.isEngaged c = false := by
  let busy := s.callers.map Prod.fst ++ s.waiting ++ (s.holder.bind Holder.caller).toList
  obtain ⟨c, free⟩ := Infinite.exists_notMem_finset busy.toFinset
  simp only [busy, List.mem_toFinset, List.mem_append, not_or] at free
  obtain ⟨⟨callers, waiting⟩, holder⟩ := free
  refine ⟨c, State.isEngaged_eq_false_iff.2 ⟨?_, waiting, fun phase held => ?_⟩⟩
  · rw [State.stage?, List.lookup_eq_none_iff]
    rintro ⟨d, stage⟩ here
    have other : c ≠ d := fun own => callers (List.mem_map.2 ⟨_, here, own.symm⟩)
    simpa using other
  · simp [held] at holder

theorem servesOn_of_hit {s : State} {p : Published} (hit : s.lookup.hit? = some p) : ServesOn s := by
  obtain ⟨c, idle⟩ := exists_idle s
  have call := step?_of_step (.call idle)
  have looking : (s.enter c .looking).stage? c = some .looking := by simp
  cases found : s.lookup with
  | fresh q =>
    have look := step?_of_step (.lookFresh looking found)
    refine ⟨((Execution.idle _).cons look).cons call, rfl, fun m => ?_, c, 0, 1, .ok q, ⟨?_, rfl⟩⟩
    · match m with
      | 0 | 1 | m + 2 => nofun
    · exact ⟨Nat.one_pos, rfl, fun m after before => by omega⟩
  | stale q =>
    have look := step?_of_step (.lookStale looking found)
    have holds : ((s.enter c .looking).enter c (.found q)).stage? c = some (.found q) := by simp
    have spawn := step?_of_step (.spawn holds)
    refine ⟨(((Execution.idle _).cons spawn).cons look).cons call, rfl, fun m => ?_,
      c, 0, 2, .ok q, ⟨?_, rfl⟩⟩
    · match m with
      | 0 | 1 | 2 | m + 3 => nofun
    · refine ⟨Nat.two_pos, rfl, fun m after before => ?_⟩
      obtain rfl : m = 1 := by omega
      exact ⟨nofun, nofun⟩
  | missing => simp [found, Lookup.hit?] at hit

/-- What a fetch brings, or confirms, is found by the next look at the cache. -/
theorem hit_of_store {s : State} {result : Except DiscoveryError Snapshot}
    (h : s.stored ≠ none ∨ ∃ snapshot, result = .ok snapshot) :
    ∃ p, (s.store result).1.lookup.hit? = some p := by
  cases result with
  | ok snapshot => exact ⟨_, hit_of_valid rfl (Option.some_ne_none _)⟩
  | error e =>
    have here : s.stored ≠ none := h.resolve_right (by rintro ⟨_, ⟨⟩⟩)
    obtain ⟨stored, here⟩ := Option.ne_none_iff_exists'.1 here
    have confirmed : (s.store (.error e)).1.stored = some ⟨stored.published, some s.now⟩ := by
      simp [State.store, here]
    exact ⟨_, hit_of_valid confirmed (Option.some_ne_none _)⟩

theorem servesOn_of_fetched {s : State} {caller : Option Nat} {result : Except DiscoveryError Snapshot}
    (held : s.holder = some ⟨caller, .fetched result⟩)
    (h : s.stored ≠ none ∨ ∃ snapshot, result = .ok snapshot) : ServesOn s := by
  obtain ⟨p, hit⟩ := hit_of_store h
  have served : ServesOn ((s.store result).1.holdAs caller (.done (s.store result).2)) :=
    servesOn_of_hit hit
  exact served.before (step?_of_step (.publish held)) nofun

theorem servesOn_of_inFlight {s : State} (h : s.InFlight) : ServesOn s.expire := by
  obtain ⟨caller, held | ⟨result, held, worth⟩⟩ := h
  · have deliver : Step s.expire (.deliver (.ok ⟨[], []⟩)) _ none := .deliver held
    exact (servesOn_of_fetched rfl (.inr ⟨_, rfl⟩)).before (step?_of_step deliver) nofun
  · refine servesOn_of_fetched (s := s.expire) held (worth.imp_left fun here => ?_)
    simpa [State.expire] using here

/-- An invalidation is kept, in that every call that begins later returns only after a fetch that has begun
later has answered, exactly if it catches no fetch in flight whose result can still be stored. -/
theorem invalidation_kept_iff (s : State) :
    (∀ (r : Execution) i, r.state i = s → r.event i = .invalidate →
      ∀ c j n result, i < j → r.Returns c j n result → r.Refetched i n) ↔ ¬ s.InFlight := by
  constructor
  · intro kept inFlight
    -- the fetch in flight answers and is stored, and somebody calls
    obtain ⟨r, start, quiet, c, j, n, result, returned⟩ := servesOn_of_inFlight inFlight
    have first : s.step? .invalidate = some (r.state 0, none) := start ▸ rfl
    obtain ⟨m, _, _, after, -, -, fetch, -⟩ :=
      kept (r.cons first) 0 rfl rfl c (j + 1) (n + 1) result (Nat.succ_pos j) (returned.cons first)
    cases m with
    | zero => exact absurd after (Nat.lt_irrefl 0)
    | succ m => exact quiet m fetch
  · rintro h r i rfl invalidate c j n result later returned
    exact returned.refetched h invalidate later

/-- A snapshot is loaded and expires. The next caller leaves a refresh running, and while it fetches the
cache is invalidated. -/
def overtaken : Execution :=
  ((Execution.follow (.empty (some 60))
    [.call 1, .look 1, .ask 1, .recheck, .fetch, .deliver (.ok ⟨[], []⟩), .publish, .release, .pass 60,
      .call 2, .look 2, .spawn 2, .recheck, .fetch, .invalidate, .deliver (.ok ⟨[], []⟩), .publish, .release,
      .call 3, .look 3]).get rfl).1

/-- The call after the invalidation returns at once what had been fetched before it. -/
theorem invalidation_lost_in_flight :
    (overtaken.state 0).Initial ∧ overtaken.event 14 = .invalidate ∧
      overtaken.Returns 3 18 19 (.ok ⟨1, ⟨[], []⟩⟩) ∧ ¬ overtaken.Refetched 14 19 := by
  refine ⟨.empty (some 60), rfl, ⟨⟨by decide, rfl, fun m after before => by omega⟩, rfl⟩, ?_⟩
  rintro ⟨m, m', _, after, next, before, fetch, -⟩
  obtain rfl | rfl | rfl : m = 15 ∨ m = 16 ∨ m = 17 := by omega
  all_goals cases fetch

/-- On one thread, where a refresh makes no progress before somebody waits: the one that was left running
before the invalidation takes the mark away, and the next caller does not wait. -/
example :
    let fetch := Fetcher.constant (.ok ⟨[], []⟩)
    let expired := (((State.empty (some 0)).current fetch).1.current fetch).1
    let settled := (expired.invalidate.settle fetch).1
    (settled.current fetch).2.toOption.map Published.number = some 1 ∧
      (settled.current fetch).1.fetches = 2 := by
  decide +kernel

end Periscope.Cache
