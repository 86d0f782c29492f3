import Mathlib.Order.Defs.PartialOrder
import Periscope.Proofs.Cache.Progress

/-!
# Calls never go back

Once a call has returned a snapshot, the cache holds that snapshot or a later one, and it never loses it. So
every answer that is settled from then on is a snapshot at least as late: the look at the cache finds one, a
fetch that succeeds publishes one, and a fetch that fails confirms one.
-/

namespace Periscope.Cache

/-- Snapshots in the order of publication: `p ≤ q` if `q` is `p` itself or was published later. -/
instance : Preorder Published where
  le p q := q = p ∨ p.number < q.number
  le_refl _ := .inl rfl
  le_trans p q w h h' := by
    rcases h with rfl | h
    · exact h'
    · rcases h' with rfl | h'
      · exact .inr h
      · exact .inr (Nat.lt_trans h h')

/-- The snapshot has been published, and the cache holds it or a later one. -/
def State.Passed (s : State) (p : Published) : Prop :=
  p.number < s.published ∧ ∃ stored, s.stored = some stored ∧ p ≤ stored.published

/-- The stored snapshot has been published. -/
def State.Numbered (s : State) : Prop :=
  ∀ stored, s.stored = some stored → stored.published.number < s.published

/-- The stored snapshot and those that callers are about to return have been published. -/
structure Sound (s : State) : Prop where
  numbered : s.Numbered
  settled : ∀ c p, Settled s c (.ok p) → s.Passed p

section

variable {s s' : State} {e : Event} {a : Option Answer} {c : Nat} {p q : Published}

theorem stored_of_hit (h : s.lookup.hit? = some p) :
    ∃ stored, s.stored = some stored ∧ stored.published = p := by
  unfold State.lookup at h
  split at h
  · cases h
  · next stored here =>
    split at h
    · cases h
    · split at h <;> exact ⟨stored, here, by simpa [Lookup.hit?] using h⟩

theorem hit_of_valid {stored : Stored} (here : s.stored = some stored)
    (valid : stored.loadedAt ≠ none) : s.lookup.hit? = some stored.published := by
  obtain ⟨loadedAt, at'⟩ := Option.ne_none_iff_exists'.1 valid
  simp only [State.lookup, here, at']
  split <;> rfl

/-- A look at the cache finds no snapshot earlier than those that have been passed. -/
theorem State.Passed.le_hit (passed : s.Passed p) (h : s.lookup.hit? = some q) : p ≤ q := by
  obtain ⟨-, stored, here, le⟩ := passed
  obtain ⟨stored', here', rfl⟩ := stored_of_hit h
  cases here.symm.trans here'
  exact le

theorem State.Numbered.passed_hit (numbered : s.Numbered) (h : s.lookup.hit? = some p) : s.Passed p := by
  obtain ⟨stored, here, rfl⟩ := stored_of_hit h
  exact ⟨numbered stored here, stored, here, le_rfl⟩

theorem State.Passed.handOver (passed : s.Passed p) : s.handOver.Passed p := by
  unfold State.handOver
  split <;> exact passed

theorem State.Numbered.handOver (numbered : s.Numbered) : s.handOver.Numbered := by
  unfold State.handOver
  split <;> exact numbered

/-! ## Storing a result -/

theorem State.Passed.store (passed : s.Passed p) (result : Except DiscoveryError Snapshot) :
    (s.store result).1.Passed p := by
  obtain ⟨number, stored, here, le⟩ := passed
  cases result with
  | ok snapshot => exact ⟨Nat.lt_succ_of_lt number, _, rfl, .inr number⟩
  | error e =>
    simp only [State.store, here]
    exact ⟨number, _, rfl, le⟩

/-- Once a snapshot has been passed, the answer to a fetch is a snapshot that is not earlier. -/
theorem State.Passed.le_store (passed : s.Passed p) (result : Except DiscoveryError Snapshot) :
    ∃ q, (s.store result).2 = .ok q ∧ p ≤ q := by
  obtain ⟨number, stored, here, le⟩ := passed
  cases result with
  | ok snapshot => exact ⟨_, rfl, .inr number⟩
  | error e => exact ⟨stored.published, by simp only [State.store, here], le⟩

theorem State.Numbered.passed_store (numbered : s.Numbered) {result : Except DiscoveryError Snapshot}
    (h : (s.store result).2 = .ok p) : (s.store result).1.Passed p := by
  cases result with
  | ok snapshot =>
    cases h
    exact ⟨Nat.lt_succ_self _, _, rfl, le_rfl⟩
  | error e =>
    cases here : s.stored with
    | none => simp [State.store, here] at h
    | some stored =>
      obtain rfl : stored.published = p := by simpa [State.store, here] using h
      simp only [State.store, here]
      exact ⟨numbered stored here, _, rfl, le_rfl⟩

theorem State.Numbered.store (numbered : s.Numbered) (result : Except DiscoveryError Snapshot) :
    (s.store result).1.Numbered := by
  intro stored here
  cases result with
  | ok snapshot => cases here; exact Nat.lt_succ_self _
  | error e =>
    cases before : s.stored with
    | none => simp [State.store, before] at here
    | some stored' =>
      simp only [State.store, before] at here ⊢
      cases here
      exact numbered stored' before

/-! ## What a step keeps -/

theorem Step.passed (h : Step s e s' a) (passed : s.Passed p) : s'.Passed p := by
  cases h with
  | publish => exact passed.store _
  | release | dropHolder => exact passed.handOver
  | invalidate =>
    obtain ⟨number, stored, here, le⟩ := passed
    exact ⟨number, { stored with loadedAt := none }, by simp [State.expire, here], le⟩
  | _ => exact passed

theorem sound_of_initial (start : s.Initial) : Sound s where
  numbered stored here := by
    cases start with
    | empty => cases here
    | ofSnapshot => cases here; exact Nat.one_pos
  settled c p settled := by
    cases start <;> cases settled with
    | found here => cases here
    | done here => cases here

theorem Step.numbered (h : Step s e s' a) (numbered : s.Numbered) : s'.Numbered := by
  cases h with
  | publish => exact numbered.store _
  | release | dropHolder => exact numbered.handOver
  | invalidate =>
    intro stored here
    obtain ⟨before, held, rfl⟩ := Option.map_eq_some_iff.1 here
    exact numbered before held
  | _ => exact numbered

theorem Step.sound (h : Step s e s' a) (sound : Sound s) : Sound s' where
  numbered := h.numbered sound.numbered
  settled c p settled := by
    rcases h.settled_origin settled with before | ⟨q, hit, ⟨⟩⟩ | ⟨result, -, answer, rfl⟩
    · exact h.passed (sound.settled c p before)
    · exact h.passed (sound.numbered.passed_hit hit)
    · exact sound.numbered.passed_store answer

theorem Sound.passed_answer (sound : Sound s) (h : Step s e s' (some ⟨c, .ok p⟩)) : s'.Passed p := by
  rcases h.answer_origin with settled | ⟨q, hit, ⟨⟩⟩
  · exact h.passed (sound.settled c p settled)
  · exact h.passed (sound.numbered.passed_hit hit)

/-- Whatever answer the caller is about to return is a snapshot, and not an earlier one. -/
def Owes (s : State) (c : Nat) (p : Published) : Prop :=
  ∀ result, Settled s c result → ∃ q, result = .ok q ∧ p ≤ q

theorem Step.owes (h : Step s e s' a) (passed : s.Passed p) (owes : Owes s c p) : Owes s' c p := by
  intro result settled
  rcases h.settled_origin settled with before | ⟨q, hit, rfl⟩ | ⟨fetched, -, rfl, -⟩
  · exact owes result before
  · exact ⟨q, rfl, passed.le_hit hit⟩
  · exact passed.le_store fetched

theorem Step.owed_answer {result : Except DiscoveryError Published}
    (h : Step s e s' (some ⟨c, result⟩)) (passed : s.Passed p) (owes : Owes s c p) :
    ∃ q, result = .ok q ∧ p ≤ q := by
  rcases h.answer_origin with settled | ⟨q, hit, rfl⟩
  · exact owes result settled
  · exact ⟨q, rfl, passed.le_hit hit⟩

theorem spawn_enabled (here : s.stage? c = some (.found p)) :
    ∃ s', s.step? (.spawn c) = some (s', some ⟨c, .ok p⟩) :=
  ⟨_, step?_of_step (.spawn here)⟩

/-- A caller that has found a snapshot gives no other answer and cannot be dropped. -/
theorem Step.found_only (h : Step s e s' a) (apart : s.Apart c) (here : s.stage? c = some (.found p)) :
    e ≠ .drop c ∧ ∀ result, a = some ⟨c, result⟩ → result = .ok p := by
  -- the caller does not hold the lock, so no release answers it
  have held := (apart (by simp [here])).2
  cases h with
  | lookFresh there => exact ⟨nofun, fun _ answer => by cases answer; cases here.symm.trans there⟩
  | spawn there => exact ⟨nofun, fun _ answer => by cases answer; cases here.symm.trans there; rfl⟩
  | @release caller result there =>
    refine ⟨nofun, fun _ answer => ?_⟩
    obtain ⟨_, rfl, ⟨⟩⟩ := Option.map_eq_some_iff.1 answer
    exact absurd there (held _)
  | dropCaller there awaits =>
    refine ⟨fun own => ?_, nofun⟩
    cases own; cases here.symm.trans there; cases awaits
  | dropWaiting away | dropHolder away =>
    refine ⟨fun own => ?_, nofun⟩
    cases own; cases here.symm.trans away
  | _ => exact ⟨nofun, nofun⟩

end

/-! ## Executions -/

namespace Execution

variable {r : Execution} {b c i j n : Nat} {p : Published} {result : Except DiscoveryError Published}

theorem sound (start : (r.state 0).Initial) (n : Nat) : Sound (r.state n) :=
  always (sound_of_initial start) (fun h => h.sound) n (Nat.zero_le n)

theorem passed_after (start : (r.state 0).Initial) (first : r.answer i = some ⟨b, .ok p⟩)
    (later : i < n) : (r.state n).Passed p := by
  have passed := (sound start i).passed_answer (step_of_answer first)
  exact always passed (fun h => h.passed) n later

theorem Pending.owes (passed : ∀ n, j ≤ n → (r.state n).Passed p) (h : r.Pending c j n) :
    Owes (r.state n) c p := by
  refine h.induction (P := fun n => Owes (r.state n) c p)
    (fun _ settled => absurd settled (step_at h.2.1).not_settled_of_call) ?_
  exact fun n h _ _ owes => (r.step n).owes (passed n (Nat.le_of_lt h.1)) owes

/-- A call returns no error, and no snapshot earlier than those that had been passed when it began. -/
theorem Returns.ok (passed : ∀ n, j ≤ n → (r.state n).Passed p) (h : r.Returns c j n result) :
    ∃ q, result = .ok q ∧ p ≤ q := by
  obtain ⟨pending, answer⟩ := h
  exact (step_of_answer answer).owed_answer (passed n (Nat.le_of_lt pending.1)) (pending.owes passed)

/-- A caller whose look at the cache finds a snapshot returns it at once or is about to. -/
theorem Pending.hit (h : r.Pending c j n) (look : r.event n = .look c)
    (hit : (r.state n).lookup.hit? = some p) :
    r.Returns c j n (.ok p) ∨ r.Pending c j (n + 1) ∧ (r.state (n + 1)).stage? c = some (.found p) := by
  have step := step_at look
  generalize answer : r.answer n = a at step
  generalize r.state (n + 1) = s' at step ⊢
  cases step with
  | lookFresh here fresh =>
    obtain rfl : _ = p := by simpa [fresh, Lookup.hit?] using hit
    exact .inl ⟨h, answer⟩
  | lookStale here stale =>
    obtain rfl : _ = p := by simpa [stale, Lookup.hit?] using hit
    exact .inr ⟨h.succ (by simp [look]) (by simp [answer]), by simp⟩
  | lookMissing here missing => simp [missing, Lookup.hit?] at hit

theorem Pending.found_step (start : (r.state 0).Initial) (h : r.Pending c j n)
    (here : (r.state n).stage? c = some (.found p)) :
    r.Pending c j (n + 1) ∧ (r.state (n + 1)).stage? c = some (.found p) ∨ r.Returns c j n (.ok p) := by
  obtain ⟨kept, only⟩ := (r.step n).found_only (apart start c n) here
  rcases (r.step n).onward here kept with still | answer
  · rcases Classical.em (∃ result, r.answer n = some ⟨c, result⟩) with ⟨result, answer⟩ | silent
    · exact .inr ⟨h, only result answer ▸ answer⟩
    · exact .inl ⟨h.succ kept fun result answer => silent ⟨result, answer⟩, still⟩
  · exact .inr ⟨h, answer⟩

/-- A caller that has found a snapshot is ready to return it as long as it is pending. -/
theorem Pending.found_until (start : (r.state 0).Initial) {m : Nat} (began : j < m)
    (here : (r.state m).stage? c = some (.found p)) (later : m ≤ n) (h : r.Pending c j n) :
    (r.state n).stage? c = some (.found p) := by
  induction later with
  | refl => exact here
  | @step n later ih =>
    have began := Nat.lt_of_lt_of_le began later
    have earlier := h.earlier began (Nat.le_succ n)
    rcases earlier.found_step start (ih earlier) with still | returned
    · exact still.2
    · exact absurd (returned.not_before h) (Nat.not_succ_le_self n)

theorem Fair.found_returns (fair : r.Fair) (start : (r.state 0).Initial) (h : r.Pending c j n)
    (here : (r.state n).stage? c = some (.found p)) : ∃ m, r.Returns c j m (.ok p) := by
  obtain ⟨m, -, returned⟩ := leads_to
    (P := fun m => r.Pending c j m ∧ (r.state m).stage? c = some (.found p))
    (Q := fun m => r.Returns c j m (.ok p)) ⟨h, here⟩
    (fun m _ both => both.1.found_step start both.2)
    ((fair.callers n c _ here).imp fun m left => ⟨left.1, fun both => left.2 both.2⟩)
  exact ⟨m, returned⟩

end Execution

open Execution in
/-- Once a call has returned a snapshot `p`, every call that begins later and returns does so with `p` or a
snapshot published later: never with an error and never with an earlier snapshot. It does return, unless it
is dropped or the execution is unfair. If the cached snapshot is not invalidated when the caller looks it up,
the call returns that one, and as long as it is pending its return is a step that is open to it, whoever holds
the lock and whatever the fetches do. -/
theorem calls_never_go_back {r : Execution} (start : (r.state 0).Initial) {b i : Nat} {p : Published}
    (first : r.answer i = some ⟨b, .ok p⟩) {c j : Nat} (later : i < j) (call : r.event j = .call c) :
    (∀ n result, r.Returns c j n result → ∃ q, result = .ok q ∧ p ≤ q) ∧
    (r.Fair → (∀ n, ¬ r.Drops c j n) → ∃ n q, r.Returns c j n (.ok q) ∧ p ≤ q) ∧
    ∀ k stored, r.Pending c j k → r.event k = .look c → (r.state k).stored = some stored →
      stored.loadedAt ≠ none →
        (r.Fair → ∃ n, r.Returns c j n (.ok stored.published)) ∧
        (∀ n result, r.Returns c j n result → result = .ok stored.published) ∧
        ∀ n, k < n → r.Pending c j n →
          ∃ s', (r.state n).step? (.spawn c) = some (s', some ⟨c, .ok stored.published⟩) := by
  have passed (n : Nat) (h : j ≤ n) : (r.state n).Passed p :=
    passed_after start first (Nat.lt_of_lt_of_le later h)
  refine ⟨fun n result returned => returned.ok passed, fun fair kept => ?_, ?_⟩
  · rcases fair.call_ends call with ⟨n, dropped⟩ | ⟨n, result, returned⟩
    · exact absurd dropped (kept n)
    · obtain ⟨q, rfl, le⟩ := returned.ok passed
      exact ⟨n, q, returned, le⟩
  · intro k stored pending look here valid
    -- a fresh snapshot is returned with the look; an expired one stays with the caller until it is
    rcases pending.hit look (hit_of_valid here valid) with returned | ⟨next, found⟩
    · refine ⟨fun _ => ⟨k, returned⟩, fun n result returned' => ?_, fun n after h => ?_⟩
      · exact returned'.unique returned
      · exact absurd after (Nat.not_lt_of_le (returned.not_before h))
    · refine ⟨fun fair => fair.found_returns start next found, fun n result returned => ?_,
        fun n after h => ?_⟩
      · have here := returned.1.found_until start next.1 found (returned.not_before next)
        exact ((r.step n).found_only (apart start c n) here).2 result returned.2
      · exact spawn_enabled (h.found_until start next.1 found after)

/-- A snapshot is loaded and expires; the next caller takes it and leaves a refresh running, which fails. -/
def expiry : Execution :=
  ((Execution.follow (.empty (some 60))
    [.call 1, .look 1, .ask 1, .recheck, .fetch, .deliver (.ok ⟨[], []⟩), .publish, .release, .pass 60,
      .call 2, .look 2, .spawn 2, .recheck, .fetch, .deliver (.error (.unavailable "")), .publish,
      .release]).get rfl).1

theorem calls_never_go_back_expiry :
    (expiry.state 0).Initial ∧ expiry.Fair ∧ expiry.answer 7 = some ⟨1, .ok ⟨0, ⟨[], []⟩⟩⟩ ∧
      expiry.event 9 = .call 2 ∧ ∃ n, expiry.Returns 2 9 n (.ok ⟨0, ⟨[], []⟩⟩) := by
  have start : (expiry.state 0).Initial := .empty (some 60)
  have fair : expiry.Fair := by
    refine Execution.fair_of_rest (N := 17) fun n later => ?_
    obtain ⟨k, rfl⟩ := Nat.exists_eq_add_of_le' later
    exact ⟨rfl, rfl⟩
  have first : expiry.answer 7 = some ⟨1, .ok ⟨0, ⟨[], []⟩⟩⟩ := rfl
  have call : expiry.event 9 = .call 2 := rfl
  have pending : expiry.Pending 2 9 10 := ⟨by decide, call, fun m after before => by omega⟩
  obtain ⟨-, -, hit⟩ := calls_never_go_back start first (by decide) call
  obtain ⟨returns, -⟩ := hit 10 ⟨⟨0, ⟨[], []⟩⟩, some 0⟩ pending rfl rfl nofun
  exact ⟨start, fair, first, call, returns fair⟩

end Periscope.Cache
