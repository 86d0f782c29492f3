import Periscope.Proofs.Cache.Execution

/-!
# Every call ends

In a fair execution every call returns or is dropped. A caller first looks at the cache; if it finds nothing
it gets a place in the line for the lock, and the number of events between it and its answer drops whenever
the holder of the lock moves on.
-/

namespace Periscope.Cache

/-- How many events of its own the holder of the lock is from giving it up, at most. -/
def Phase.remaining : Phase → Nat
  | .locked => 5
  | .missed => 4
  | .fetching => 3
  | .fetched _ => 2
  | .done _ => 1

/-- The caller holds the lock or waits for it, and returns after the given number of events of holders at
the latest. -/
inductive Due (s : State) (c : Nat) : Nat → Prop where
  | holding {phase} (held : s.holder = some ⟨some c, phase⟩) : Due s c phase.remaining
  | waiting {h before after} (held : s.holder = some h) (line : s.waiting = before ++ c :: after) :
      Due s c (h.phase.remaining + 5 * (before.length + 1))

section

variable {s s' : State} {e : Event} {a : Option Answer} {c n : Nat}

theorem Phase.remaining_locked : Phase.locked.remaining = 5 := rfl

theorem Phase.remaining_pos (phase : Phase) : 0 < phase.remaining := by
  cases phase <;> simp [Phase.remaining]

theorem Due.held (due : Due s c n) : ∃ h, s.holder = some h := by
  cases due with
  | holding held => exact ⟨_, held⟩
  | waiting held => exact ⟨_, held⟩

theorem Due.mono (due : Due s c n) (holder : s'.holder = s.holder) (line : s.waiting <+: s'.waiting) :
    Due s' c n := by
  obtain ⟨more, line⟩ := line
  cases due with
  | holding held => exact .holding (holder.trans held)
  | @waiting h before after held here =>
    have line : s'.waiting = before ++ c :: (after ++ more) := by rw [← line, here]; simp
    exact .waiting (holder.trans held) line

/-- When the holder of the lock moves on, everybody in the line does. -/
theorem Due.advance {caller : Option Nat} {phase phase' : Phase} (due : Due s c n)
    (held : s.holder = some ⟨caller, phase⟩) (moved : s'.holder = some ⟨caller, phase'⟩)
    (line : s'.waiting = s.waiting) (closer : phase'.remaining < phase.remaining) :
    ∃ n' < n, Due s' c n' := by
  cases due with
  | holding here =>
    cases held.symm.trans here
    exact ⟨_, closer, .holding moved⟩
  | @waiting h before after here place =>
    cases held.symm.trans here
    exact ⟨_, Nat.add_lt_add_right closer _, .waiting moved (line.trans place)⟩

/-- When the lock is handed over, everybody in the line moves up. -/
theorem Due.handOver (due : Due s c n) (other : ∀ phase, s.holder ≠ some ⟨some c, phase⟩) :
    ∃ n' < n, Due s.handOver c n' := by
  cases due with
  | holding held => exact absurd held (other _)
  | @waiting h before after held line =>
    have := h.phase.remaining_pos
    cases before with
    | nil =>
      have next : s.handOver.holder = some ⟨some c, .locked⟩ := by simp [State.handOver, line, State.holdAs]
      refine ⟨_, ?_, .holding next⟩
      simp only [Phase.remaining_locked, List.length_nil]
      omega
    | cons d before =>
      have next : s.handOver.holder = some ⟨some d, .locked⟩ := by simp [State.handOver, line, State.holdAs]
      have rest : s.handOver.waiting = before ++ c :: after := by simp [State.handOver, line, State.holdAs]
      refine ⟨_, ?_, .waiting next rest⟩
      simp only [Phase.remaining_locked, List.length_cons]
      omega

theorem Due.leaveLine {d : Nat} (due : Due s c n) (other : c ≠ d) :
    ∃ n' ≤ n, Due { s with waiting := s.waiting.filter (· != d) } c n' := by
  cases due with
  | holding held => exact ⟨_, Nat.le_refl _, .holding held⟩
  | @waiting h before after held line =>
    have rest : s.waiting.filter (· != d) = before.filter (· != d) ++ c :: after.filter (· != d) := by
      simp [line, other]
    have := before.length_filter_le (· != d)
    exact ⟨_, by omega, .waiting held rest⟩

/-- A step leaves a caller its place in the line, and brings it closer to its answer if the holder of the
lock moves on. -/
theorem Step.due (h : Step s e s' a) (due : Due s c n) (kept : e ≠ .drop c)
    (silent : ∀ result, a ≠ some ⟨c, result⟩) :
    ∃ n' ≤ n, Due s' c n' ∧ (s'.holder ≠ s.holder → n' < n) := by
  have stays {t : State} (holder : t.holder = s.holder) (line : s.waiting <+: t.waiting) :
      ∃ n' ≤ n, Due t c n' ∧ (t.holder ≠ s.holder → n' < n) :=
    ⟨n, Nat.le_refl _, due.mono holder line, fun moved => absurd holder moved⟩
  have closer {t : State} : (∃ n' < n, Due t c n') →
      ∃ n' ≤ n, Due t c n' ∧ (t.holder ≠ s.holder → n' < n) :=
    fun ⟨n', less, due⟩ => ⟨n', Nat.le_of_lt less, due, fun _ => less⟩
  obtain ⟨holder, held⟩ := due.held
  -- the holder of the lock stays, moves on or hands it over, and others leave the line or line up behind
  cases h with
  | spawn => exact stays (by simp [held]) (List.prefix_refl _)
  | take _ free => cases held.symm.trans free
  | lineUp => exact stays rfl (List.prefix_append _ _)
  | recheckFresh here | recheckMissed here | fetch here | deliver here =>
    exact closer (due.advance here rfl rfl (by simp [Phase.remaining]))
  | publish here =>
    exact closer (due.advance here rfl (s.waiting_store _) (by simp [Phase.remaining]))
  | release here =>
    refine closer (due.handOver fun phase own => ?_)
    cases here.symm.trans own
    exact silent _ rfl
  | dropHolder _ _ here =>
    refine closer (due.handOver fun phase own => ?_)
    cases here.symm.trans own
    exact kept rfl
  | @dropWaiting d _ here =>
    obtain ⟨n', less, due⟩ := due.leaveLine (d := d) fun own => kept (own ▸ rfl)
    exact ⟨n', less, due, fun moved => absurd rfl moved⟩
  | _ => exact stays rfl (List.prefix_refl _)

/-! ## Stages -/

theorem Step.of_call (h : Step s (.call c) s' a) : s'.stage? c = some .looking := by
  cases h with
  | call => simp

/-- What comes of a caller that leaves its stage and is not dropped. -/
def Onward (s' : State) (a : Option Answer) (c : Nat) : Stage → Prop
  | .looking =>
    (∃ result, a = some ⟨c, result⟩) ∨ (∃ p, s'.stage? c = some (.found p)) ∨ s'.stage? c = some .missed
  | .found p => a = some ⟨c, .ok p⟩
  | .missed => ∃ n, Due s' c n

theorem Step.onward {stage : Stage} (h : Step s e s' a) (here : s.stage? c = some stage)
    (kept : e ≠ .drop c) : s'.stage? c = some stage ∨ Onward s' a c stage := by
  by_cases own : e.caller? = some c
  · cases h with
    | call idle => cases own; cases here.symm.trans (State.isEngaged_eq_false_iff.1 idle).1
    | lookFresh there => cases own; cases here.symm.trans there; exact .inr (.inl ⟨_, rfl⟩)
    | @lookStale _ p there =>
      cases own; cases here.symm.trans there
      exact .inr (.inr (.inl ⟨p, by simp⟩))
    | lookMissing there =>
      cases own; cases here.symm.trans there
      exact .inr (.inr (.inr (by simp)))
    | spawn there => cases own; cases here.symm.trans there; exact .inr rfl
    | take there => cases own; cases here.symm.trans there; exact .inr ⟨_, .holding rfl⟩
    | lineUp there held => cases own; cases here.symm.trans there; exact .inr ⟨_, .waiting held rfl⟩
    | dropCaller | dropWaiting | dropHolder => cases own; exact absurd rfl kept
    | _ => cases own
  · exact .inl ((h.stage?_eq own).trans here)

end

/-! ## Calls -/

namespace Execution

variable {r : Execution} {c j : Nat}

/-- What is given up some time, and only for something else, leads to that. -/
theorem leads_to {P Q : Nat → Prop} {n : Nat} (here : P n)
    (moves : ∀ m, n ≤ m → P m → P (m + 1) ∨ Q m) (left : ∃ m, n ≤ m ∧ ¬ P m) : ∃ m, n ≤ m ∧ Q m := by
  refine Classical.byContradiction fun never => ?_
  obtain ⟨m, later, gone⟩ := left
  refine gone ?_
  clear gone
  induction later with
  | refl => exact here
  | @step m later ih => exact (moves m later ih).resolve_right fun q => never ⟨m, later, q⟩

/-- The call that begins with event `j` stays pending for ever. -/
def Hangs (r : Execution) (c j : Nat) : Prop := ∀ n, j < n → r.Pending c j n

theorem Hangs.quiet (h : r.Hangs c j) {n : Nat} (began : j < n) :
    r.event n ≠ .drop c ∧ ∀ result, r.answer n ≠ some ⟨c, result⟩ :=
  (h (n + 1) (by omega)).2.2 n began (Nat.lt_succ_self n)

theorem ends_or_hangs (call : r.event j = .call c) :
    (∃ n, r.Drops c j n) ∨ (∃ n result, r.Returns c j n result) ∨ r.Hangs c j := by
  refine Classical.byContradiction fun open' => ?_
  simp only [not_or, not_exists] at open'
  obtain ⟨kept, silent, ends⟩ := open'
  refine ends fun n began => ?_
  induction began with
  | refl => exact ⟨Nat.lt_succ_self j, call, fun m after before => by omega⟩
  | step _ ih =>
    exact ih.succ (fun drop => kept _ ⟨ih, drop⟩) fun result answer => silent _ _ ⟨ih, answer⟩

theorem Hangs.due (h : r.Hangs c j) {k n : Nat} (began : j < k) (due : Due (r.state k) c n) :
    ∀ m, k ≤ m → ∃ n' ≤ n, Due (r.state m) c n' ∧
      ((r.state m).holder ≠ (r.state k).holder → n' < n) := by
  intro m later
  induction later with
  | refl => exact ⟨n, Nat.le_refl n, due, fun moved => absurd rfl moved⟩
  | @step m later ih =>
    obtain ⟨n', le, due, moved⟩ := ih
    obtain ⟨kept, silent⟩ := h.quiet (Nat.lt_of_lt_of_le began later)
    obtain ⟨n'', le', due, moved'⟩ := (r.step m).due due kept silent
    refine ⟨n'', Nat.le_trans le' le, due, fun away => ?_⟩
    by_cases same : (r.state (m + 1)).holder = (r.state m).holder
    · exact Nat.lt_of_le_of_lt le' (moved (same ▸ away))
    · exact Nat.lt_of_lt_of_le (moved' same) le

theorem Hangs.not_due (h : r.Hangs c j) (fair : r.Fair) {k n : Nat} (began : j < k) :
    ¬ Due (r.state k) c n := by
  intro due
  -- on the distance to the answer: the holder of the lock moves on some time, and the distance drops
  induction n using Nat.strongRecOn generalizing k with
  | ind n ih =>
    obtain ⟨holder, held⟩ := due.held
    obtain ⟨m, later, moved⟩ := fair.holder k holder held
    obtain ⟨n', -, due, less⟩ := h.due began due m later
    exact ih n' (less (held ▸ moved)) (Nat.lt_of_lt_of_le began later) due

theorem Hangs.onward (h : r.Hangs c j) (fair : r.Fair) {k : Nat} {stage : Stage} (began : j < k)
    (here : (r.state k).stage? c = some stage) :
    ∃ m, j < m ∧ Onward (r.state (m + 1)) (r.answer m) c stage := by
  obtain ⟨m, later, onward⟩ := leads_to
    (Q := fun m => Onward (r.state (m + 1)) (r.answer m) c stage) here
    (fun m later here => (r.step m).onward here (h.quiet (Nat.lt_of_lt_of_le began later)).1)
    (fair.callers k c stage here)
  exact ⟨m, Nat.lt_of_lt_of_le began later, onward⟩

theorem Hangs.not_found (h : r.Hangs c j) (fair : r.Fair) {k : Nat} {p : Published} (began : j < k) :
    (r.state k).stage? c ≠ some (.found p) := by
  intro here
  obtain ⟨m, began, answer⟩ := h.onward fair began here
  exact (h.quiet began).2 _ answer

theorem Hangs.not_missed (h : r.Hangs c j) (fair : r.Fair) {k : Nat} (began : j < k) :
    (r.state k).stage? c ≠ some .missed := by
  intro here
  obtain ⟨m, began, n, due⟩ := h.onward fair began here
  exact h.not_due fair (Nat.lt_succ_of_lt began) due

theorem Hangs.not_looking (h : r.Hangs c j) (fair : r.Fair) {k : Nat} (began : j < k) :
    (r.state k).stage? c ≠ some .looking := by
  intro here
  obtain ⟨m, began, ⟨result, answer⟩ | ⟨p, found⟩ | missed⟩ := h.onward fair began here
  · exact (h.quiet began).2 result answer
  · exact h.not_found fair (Nat.lt_succ_of_lt began) found
  · exact h.not_missed fair (Nat.lt_succ_of_lt began) missed

/-- In a fair execution every call returns or is dropped. -/
theorem Fair.call_ends (fair : r.Fair) (call : r.event j = .call c) :
    (∃ n, r.Drops c j n) ∨ ∃ n result, r.Returns c j n result := by
  rcases ends_or_hangs call with dropped | returned | hangs
  · exact .inl dropped
  · exact .inr returned
  · exact absurd (step_at call).of_call (hangs.not_looking fair (Nat.lt_succ_self j))

end Execution

end Periscope.Cache
