import Periscope.Cache.Basic

/-!
# The steps of the cache

`Step` lists what each event can do, one constructor for each outcome, and `step?_eq_some_iff` says that it
is the transition function. The other lemmas invert a step: where a caller, its answer, the phase of the
holder of the lock, and the stored snapshot come from.
-/

namespace Periscope.Cache

namespace State

/-! ## The stages of callers -/

private theorem lookup_cons_ne {b d : Nat} (other : d ≠ b) (stage : Stage)
    (callers : List (Nat × Stage)) : ((b, stage) :: callers).lookup d = callers.lookup d := by
  simp only [List.lookup_cons, beq_false_of_ne other]

private theorem lookup_filter_ne (callers : List (Nat × Stage)) (c d : Nat) :
    (callers.filter (·.1 != c)).lookup d = if d = c then none else callers.lookup d := by
  induction callers with
  | nil => simp
  | cons x rest ih =>
    obtain ⟨b, stage⟩ := x
    by_cases gone : b = c
    · subst gone
      rw [List.filter_cons_of_neg (by simp), ih]
      split
      · rfl
      · next other => rw [lookup_cons_ne other]
    · rw [List.filter_cons_of_pos (by simpa using gone)]
      by_cases own : d = b
      · subst own; simp [gone]
      · rw [lookup_cons_ne own, lookup_cons_ne own, ih]

@[simp] theorem stage?_leave (s : State) (c d : Nat) :
    (s.leave c).stage? d = if d = c then none else s.stage? d :=
  lookup_filter_ne s.callers c d

@[simp] theorem stage?_enter (s : State) (c d : Nat) (stage : Stage) :
    (s.enter c stage).stage? d = if d = c then some stage else s.stage? d := by
  by_cases own : d = c
  · simp [enter, stage?, own]
  · calc (s.enter c stage).stage? d = (s.leave c).stage? d := lookup_cons_ne own stage _
      _ = if d = c then some stage else s.stage? d := by simp [own]

theorem isEngaged_eq_false_iff {s : State} {c : Nat} :
    s.isEngaged c = false ↔
      s.stage? c = none ∧ c ∉ s.waiting ∧ ∀ phase, s.holder ≠ some ⟨some c, phase⟩ := by
  have holds : s.isHeldBy c = false ↔ ∀ phase, s.holder ≠ some ⟨some c, phase⟩ := by
    unfold isHeldBy
    cases s.holder with
    | none => simp
    | some h => obtain ⟨caller, phase⟩ := h; simp
  simp [isEngaged, holds, and_assoc]

@[simp] theorem stage?_handOver (s : State) (c : Nat) : s.handOver.stage? c = s.stage? c := by
  unfold handOver
  split <;> rfl

@[simp] theorem stage?_store (s : State) (result : Except DiscoveryError Snapshot) (c : Nat) :
    (s.store result).1.stage? c = s.stage? c := by
  unfold store
  split
  · rfl
  · split <;> rfl

@[simp] theorem waiting_store (s : State) (result : Except DiscoveryError Snapshot) :
    (s.store result).1.waiting = s.waiting := by
  unfold store
  split
  · rfl
  · split <;> rfl

/-- The caller that is given the lock has yet to look at the cache again. -/
theorem locked_of_handOver {s : State} {h : Holder} (held : s.handOver.holder = some h) : h.phase = .locked := by
  unfold handOver at held
  split at held <;> cases held
  rfl

end State

/-! ## Outcomes of events -/

/-- What an event does to a state, and the answer it gives. -/
inductive Step (s : State) : Event → State → Option Answer → Prop where
  | call {c} (idle : s.isEngaged c = false) : Step s (.call c) (s.enter c .looking) none
  | lookFresh {c p} (here : s.stage? c = some .looking) (fresh : s.lookup = .fresh p) :
      Step s (.look c) (s.leave c) (some ⟨c, .ok p⟩)
  | lookStale {c p} (here : s.stage? c = some .looking) (stale : s.lookup = .stale p) :
      Step s (.look c) (s.enter c (.found p)) none
  | lookMissing {c} (here : s.stage? c = some .looking) (missing : s.lookup = .missing) :
      Step s (.look c) (s.enter c .missed) none
  | spawn {c p} (here : s.stage? c = some (.found p)) :
      Step s (.spawn c) { s.leave c with holder := s.holder.or (some ⟨none, .locked⟩) }
        (some ⟨c, .ok p⟩)
  | take {c} (here : s.stage? c = some .missed) (free : s.holder = none) :
      Step s (.ask c) ((s.leave c).holdAs (some c) .locked) none
  | lineUp {c h} (here : s.stage? c = some .missed) (held : s.holder = some h) :
      Step s (.ask c) { s.leave c with waiting := s.waiting ++ [c] } none
  | recheckFresh {caller p} (here : s.holder = some ⟨caller, .locked⟩) (fresh : s.lookup = .fresh p) :
      Step s .recheck (s.holdAs caller (.done (.ok p))) none
  | recheckMissed {caller} (here : s.holder = some ⟨caller, .locked⟩)
      (missed : ∀ p, s.lookup ≠ .fresh p) : Step s .recheck (s.holdAs caller .missed) none
  | fetch {caller} (here : s.holder = some ⟨caller, .missed⟩) :
      Step s .fetch ({ s with fetches := s.fetches + 1 }.holdAs caller .fetching) none
  | deliver {caller result} (here : s.holder = some ⟨caller, .fetching⟩) :
      Step s (.deliver result) (s.holdAs caller (.fetched result)) none
  | publish {caller result} (here : s.holder = some ⟨caller, .fetched result⟩) :
      Step s .publish ((s.store result).1.holdAs caller (.done (s.store result).2)) none
  | release {caller result} (here : s.holder = some ⟨caller, .done result⟩) :
      Step s .release s.handOver (State.answerHolder caller result)
  | dropCaller {c stage} (here : s.stage? c = some stage) (awaits : stage.awaits) :
      Step s (.drop c) (s.leave c) none
  | dropWaiting {c} (away : s.stage? c = none) (here : c ∈ s.waiting) :
      Step s (.drop c) { s with waiting := s.waiting.filter (· != c) } none
  | dropHolder {c phase} (away : s.stage? c = none) (out : c ∉ s.waiting)
      (here : s.holder = some ⟨some c, phase⟩) (awaits : phase.awaits) :
      Step s (.drop c) s.handOver none
  | invalidate : Step s .invalidate s.expire none
  | pass {time} : Step s (.pass time) { s with now := s.now + time } none

section

variable {s s' : State} {e : Event} {a : Option Answer} {c : Nat}

theorem step_of_abort? (h : s.abort? c = some s') : Step s (.drop c) s' none := by
  unfold State.abort? at h
  split at h
  · next here =>
    split at h
    · next awaits => cases h; exact .dropCaller here awaits
    · cases h
  · next away =>
    split at h
    · next here => cases h; exact .dropWaiting away (by simpa using here)
    · next out =>
      split at h
      · next held =>
        cases h
        obtain ⟨⟨caller, phase⟩, here, holds⟩ := Option.any_eq_true _ _ |>.1 held
        obtain ⟨rfl, awaits⟩ : caller = some c ∧ phase.awaits := by simpa using holds
        exact .dropHolder away (by simpa using out) here awaits
      · cases h

theorem step_of_step? (h : s.step? e = some (s', a)) : Step s e s' a := by
  cases e with
  | call c =>
    simp only [State.step?] at h
    split at h
    · cases h
    · next idle => cases h; exact .call (by simpa using idle)
  | look c =>
    simp only [State.step?] at h
    split at h
    · next here =>
      split at h
      · next fresh => cases h; exact .lookFresh here fresh
      · next stale => cases h; exact .lookStale here stale
      · next missing => cases h; exact .lookMissing here missing
    · cases h
  | spawn c =>
    simp only [State.step?] at h
    split at h
    · next here => cases h; exact .spawn here
    · cases h
  | ask c =>
    simp only [State.step?] at h
    split at h
    · next here =>
      split at h
      · next free => cases h; exact .take here free
      · next held => cases h; exact .lineUp here held
    · cases h
  | recheck =>
    simp only [State.step?] at h
    split at h
    · next here =>
      split at h
      · next fresh => cases h; exact .recheckFresh here fresh
      · next missed => cases h; exact .recheckMissed here missed
    · cases h
  | fetch =>
    simp only [State.step?] at h
    split at h
    · next here => cases h; exact .fetch here
    · cases h
  | deliver result =>
    simp only [State.step?] at h
    split at h
    · next here => cases h; exact .deliver here
    · cases h
  | publish =>
    simp only [State.step?] at h
    split at h
    · next here => cases h; exact .publish here
    · cases h
  | release =>
    simp only [State.step?] at h
    split at h
    · next here => cases h; exact .release here
    · cases h
  | drop c =>
    have given : (s.abort? c).map (·, none) = some (s', a) := h
    obtain ⟨t, aborted, moved⟩ := Option.map_eq_some_iff.1 given
    cases moved
    exact step_of_abort? aborted
  | invalidate => cases h; exact .invalidate
  | pass time => cases h; exact .pass

theorem step?_of_step (h : Step s e s' a) : s.step? e = some (s', a) := by
  cases h with
  | call idle => simp [State.step?, idle]
  | lookFresh here found | lookStale here found | lookMissing here found =>
    simp only [State.step?, here, found]
  | spawn here => simp only [State.step?, here]
  | take here held | lineUp here held => simp only [State.step?, here, held]
  | recheckFresh here fresh => simp only [State.step?, here, fresh]
  | recheckMissed here missed => simp only [State.step?, here]
  | fetch here | deliver here | publish here | release here => simp only [State.step?, here]
  | dropCaller here awaits => simp [State.step?, State.abort?, here, awaits]
  | dropWaiting away here => simp [State.step?, State.abort?, away, here]
  | dropHolder away out here awaits => simp [State.step?, State.abort?, away, out, here, awaits]
  | invalidate | pass => rfl

theorem step?_eq_some_iff : s.step? e = some (s', a) ↔ Step s e s' a := ⟨step_of_step?, step?_of_step⟩

/-! ## Callers -/

/-- The caller whose event it is. -/
def Event.caller? : Event → Option Nat
  | .call c | .look c | .spawn c | .ask c | .drop c => some c
  | _ => none

/-- The events of others leave a caller at its stage. -/
theorem Step.stage?_eq (h : Step s e s' a) (other : e.caller? ≠ some c) :
    s'.stage? c = s.stage? c := by
  have away {d : Nat} (hd : some d ≠ some c) : c ≠ d := fun own => hd (own ▸ rfl)
  cases h with
  | call | lookStale | lookMissing => simp [away other]
  | lookFresh | dropCaller => simp [away other]
  | spawn | take | lineUp => exact (s.stage?_leave _ c).trans (if_neg (away other))
  | release | dropHolder => simp
  | publish => exact s.stage?_store _ c
  | _ => rfl

theorem Step.stage?_ne_none (h : Step s e s' a) (other : e ≠ .call c) (here : s'.stage? c ≠ none) :
    s.stage? c ≠ none := by
  by_cases own : e.caller? = some c
  · cases h with
    | call => cases own; exact absurd rfl other
    | lookFresh there | lookStale there | lookMissing there | spawn there | take there | lineUp there
    | dropCaller there => cases own; simp [there]
    | dropWaiting => exact here
    | dropHolder => simpa using here
    | _ => cases own
  · exact h.stage?_eq own ▸ here

/-- A caller at a stage neither waits for the lock nor holds it. -/
def State.Apart (s : State) (c : Nat) : Prop :=
  s.stage? c ≠ none → c ∉ s.waiting ∧ ∀ phase, s.holder ≠ some ⟨some c, phase⟩

theorem State.Apart.handOver (apart : s.Apart c) : s.handOver.Apart c := by
  intro here
  rw [stage?_handOver] at here
  obtain ⟨waiting, holder⟩ := apart here
  unfold State.handOver
  split
  · next line => exact ⟨waiting, fun _ held => by cases held⟩
  · next d rest line =>
    rw [line, List.mem_cons, not_or] at waiting
    exact ⟨waiting.2, fun _ held => by cases held; exact waiting.1 rfl⟩

/-- A caller is in one place at a time. -/
theorem Step.apart (h : Step s e s' a) (apart : s.Apart c) : s'.Apart c := by
  by_cases call : e = .call c
  · subst call
    cases h with
    | call idle =>
      exact fun _ => (State.isEngaged_eq_false_iff.1 idle).2
  · intro here
    -- nobody comes to a stage but by a call, so the caller was at one before, and in no other place
    obtain ⟨waiting, holder⟩ := apart (h.stage?_ne_none call here)
    cases h with
    | spawn =>
      refine ⟨waiting, fun phase held => ?_⟩
      cases before : s.holder with
      | none => simp [before] at held
      | some _ => exact holder phase (by simpa [before] using held)
    | @take d =>
      refine ⟨waiting, fun phase held => ?_⟩
      cases held
      exact here ((s.stage?_leave c c).trans (by simp))
    | @lineUp d =>
      refine ⟨fun line => ?_, holder⟩
      rcases List.mem_append.1 line with before | last
      · exact waiting before
      · obtain rfl := List.mem_singleton.1 last
        exact here ((s.stage?_leave c c).trans (by simp))
    | recheckFresh before | recheckMissed before | fetch before | deliver before =>
      exact ⟨waiting, fun _ held => by cases held; exact holder _ before⟩
    | publish before =>
      exact ⟨s.waiting_store _ ▸ waiting, fun _ held => by cases held; exact holder _ before⟩
    | release | dropHolder => exact apart.handOver here
    | dropWaiting => exact ⟨fun line => waiting (List.mem_filter.1 line).1, holder⟩
    | _ => exact ⟨waiting, holder⟩

/-! ## The holder of the lock -/

/-- The phase that an event takes the holder of the lock to. -/
inductive Enters : Event → Phase → Prop where
  | recheckFresh (p : Published) : Enters .recheck (.done (.ok p))
  | recheckMissed : Enters .recheck .missed
  | fetch : Enters .fetch .fetching
  | deliver (result : Except DiscoveryError Snapshot) : Enters (.deliver result) (.fetched result)
  | publish (result : Except DiscoveryError Published) : Enters .publish (.done result)

theorem Step.phase_origin {caller : Option Nat} {phase : Phase} (h : Step s e s' a)
    (held : s'.holder = some ⟨caller, phase⟩) (moved : phase ≠ .locked) :
    s.holder = some ⟨caller, phase⟩ ∨ Enters e phase := by
  cases h with
  | spawn =>
    cases before : s.holder with
    | none =>
      obtain ⟨-, rfl⟩ : none = caller ∧ Phase.locked = phase := by simpa [before] using held
      exact absurd rfl moved
    | some _ => exact .inl (by simpa [before] using held)
  | take => cases held; exact absurd rfl moved
  | recheckFresh => cases held; exact .inr (.recheckFresh _)
  | recheckMissed => cases held; exact .inr .recheckMissed
  | fetch => cases held; exact .inr .fetch
  | deliver => cases held; exact .inr (.deliver _)
  | publish => cases held; exact .inr (.publish _)
  | release | dropHolder => exact absurd (State.locked_of_handOver held) moved
  | _ => exact .inl held

theorem Step.fetching_origin {caller : Option Nat} (h : Step s e s' a)
    (held : s'.holder = some ⟨caller, .fetching⟩) : s.holder = some ⟨caller, .fetching⟩ ∨ e = .fetch :=
  (h.phase_origin held nofun).imp_right fun enters => by cases enters; rfl

theorem Step.fetched_origin {caller : Option Nat} {result : Except DiscoveryError Snapshot}
    (h : Step s e s' a) (held : s'.holder = some ⟨caller, .fetched result⟩) :
    s.holder = some ⟨caller, .fetched result⟩ ∨ e = .deliver result :=
  (h.phase_origin held nofun).imp_right fun enters => by cases enters; rfl

theorem Step.of_deliver {result : Except DiscoveryError Snapshot} (h : Step s (.deliver result) s' a) :
    ∃ caller, s.holder = some ⟨caller, .fetching⟩ := by
  cases h with
  | deliver held => exact ⟨_, held⟩

theorem Step.of_invalidate (h : Step s .invalidate s' a) : s' = s.expire := by
  cases h with
  | invalidate => rfl

theorem Step.stored_origin (h : Step s e s' a) (other : e ≠ .publish) :
    s'.stored = s.stored ∨ s'.stored = s.expire.stored := by
  cases h with
  | publish => exact absurd rfl other
  | release | dropHolder => unfold State.handOver; split <;> exact .inl rfl
  | invalidate => exact .inr rfl
  | _ => exact .inl rfl

/-! ## The answer of a caller -/

/-- A caller knows its answer and has yet to return it. -/
inductive Settled (s : State) (c : Nat) : Except DiscoveryError Published → Prop where
  | found {p} (here : s.stage? c = some (.found p)) : Settled s c (.ok p)
  | done {result} (here : s.holder = some ⟨some c, .done result⟩) : Settled s c result

theorem Step.not_settled_of_call {result : Except DiscoveryError Published}
    (h : Step s (.call c) s' a) : ¬ Settled s' c result := by
  intro settled
  cases h with
  | call idle =>
    cases settled with
    | found here => simp at here
    | done here => exact (State.isEngaged_eq_false_iff.1 idle).2.2 _ here

/-- The snapshot that a look at the cache finds, fresh or expired. -/
def Lookup.hit? : Lookup → Option Published
  | .fresh p | .stale p => some p
  | .missing => none

/-- An answer is settled already, or it comes from the cache. -/
theorem Step.answer_origin {result : Except DiscoveryError Published}
    (h : Step s e s' (some ⟨c, result⟩)) :
    Settled s c result ∨ ∃ p, s.lookup.hit? = some p ∧ result = .ok p := by
  generalize ha : some (Answer.mk c result) = a at h
  cases h with
  | lookFresh here fresh => cases ha; exact .inr ⟨_, by rw [fresh]; rfl, rfl⟩
  | spawn here => cases ha; exact .inl (.found here)
  | @release caller _ here =>
    cases caller with
    | none => cases ha
    | some d => cases ha; exact .inl (.done here)
  | _ => cases ha

/-- A caller's answer is settled by a look at the cache or by the result of its fetch. -/
theorem Step.settled_origin {result : Except DiscoveryError Published} (h : Step s e s' a)
    (settled : Settled s' c result) :
    Settled s c result ∨ (∃ p, s.lookup.hit? = some p ∧ result = .ok p) ∨
      ∃ fetched, s.holder = some ⟨some c, .fetched fetched⟩ ∧ (s.store fetched).2 = result ∧
        s' = (s.store fetched).1.holdAs (some c) (.done result) := by
  -- a caller finds its answer at its own look; one that holds the lock gets it by a recheck or a fetch
  cases settled with
  | @found p here =>
    by_cases own : e.caller? = some c
    · cases h with
      | lookStale _ stale =>
        cases own
        obtain rfl : _ = p := by simpa using here
        exact .inr (.inl ⟨_, by rw [stale]; rfl, rfl⟩)
      | dropWaiting away => cases own; cases away.symm.trans here
      | dropHolder away => cases own; simp [away] at here
      | call | lookFresh | lookMissing | dropCaller => cases own; simp at here
      | spawn | take | lineUp =>
        cases own
        exact absurd ((s.stage?_leave c c).symm.trans here) (by simp)
      | _ => cases own
    · exact .inl (.found (h.stage?_eq own ▸ here))
  | done here =>
    cases h with
    | spawn =>
      cases held : s.holder with
      | none => simp [held] at here
      | some holder => exact .inl (.done (by simpa [held] using here))
    | recheckFresh _ fresh =>
      cases here
      exact .inr (.inl ⟨_, by rw [fresh]; rfl, rfl⟩)
    | publish fetched =>
      cases here
      exact .inr (.inr ⟨_, fetched, rfl, rfl⟩)
    | release | dropHolder => cases State.locked_of_handOver here
    | take | recheckMissed | fetch | deliver => cases here
    | _ => exact .inl (.done here)

end

end Periscope.Cache
