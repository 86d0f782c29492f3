import Periscope.Proofs.Cache.Step

/-!
# Executions of the cache

An execution goes on for ever; one that has come to rest lets no time pass. A call that begins is pending
until it returns or is dropped. An execution is fair if no caller and no holder of the lock stays for ever at
a place from which it can move on: callers get their turns, and fetches answer.
-/

namespace Periscope.Cache

/-- A cache that is new, or has been given its first snapshot. -/
inductive State.Initial : State → Prop where
  | empty (lifetime : Option Nat) : State.Initial (.empty lifetime)
  | ofSnapshot (snapshot : Snapshot) : State.Initial (.ofSnapshot snapshot)

theorem State.Initial.rest {s : State} (h : s.Initial) : s.callers = [] ∧ s.holder = none := by
  cases h <;> exact ⟨rfl, rfl⟩

theorem State.stage?_eq_none {s : State} (h : s.callers = []) (c : Nat) : s.stage? c = none := by
  simp [stage?, h]

/-- States, the events between them, and what the events answer. -/
structure Execution where
  state : Nat → State
  event : Nat → Event
  answer : Nat → Option Answer
  steps : ∀ n, (state n).step? (event n) = some (state (n + 1), answer n)

namespace Execution

variable {r : Execution} {c j n : Nat}

theorem step (r : Execution) (n : Nat) : Step (r.state n) (r.event n) (r.state (n + 1)) (r.answer n) :=
  step_of_step? (r.steps n)

theorem step_at {e : Event} (h : r.event n = e) : Step (r.state n) e (r.state (n + 1)) (r.answer n) :=
  h ▸ r.step n

theorem step_of_answer {a : Option Answer} (h : r.answer n = a) :
    Step (r.state n) (r.event n) (r.state (n + 1)) a :=
  h ▸ r.step n

theorem always {P : State → Prop} {m : Nat} (now : P (r.state m))
    (keeps : ∀ {s s' e a}, Step s e s' a → P s → P s') : ∀ n, m ≤ n → P (r.state n) := by
  intro n later
  induction later with
  | refl => exact now
  | step _ ih => exact keeps (r.step _) ih

theorem apart (start : (r.state 0).Initial) (c n : Nat) : (r.state n).Apart c := by
  have apart : (r.state 0).Apart c := fun here => absurd (State.stage?_eq_none start.rest.1 c) here
  exact always apart (fun h => h.apart) n (Nat.zero_le n)

/-! ## Calls -/

/-- The call that begins with event `j` has neither returned nor been dropped before event `n`. -/
def Pending (r : Execution) (c j n : Nat) : Prop :=
  j < n ∧ r.event j = .call c ∧
    ∀ m, j < m → m < n → r.event m ≠ .drop c ∧ ∀ result, r.answer m ≠ some ⟨c, result⟩

/-- The call that begins with event `j` returns with event `n`. -/
def Returns (r : Execution) (c j n : Nat) (result : Except DiscoveryError Published) : Prop :=
  r.Pending c j n ∧ r.answer n = some ⟨c, result⟩

/-- The call that begins with event `j` is dropped with event `n`. -/
def Drops (r : Execution) (c j n : Nat) : Prop := r.Pending c j n ∧ r.event n = .drop c

theorem Pending.succ (h : r.Pending c j n) (kept : r.event n ≠ .drop c)
    (silent : ∀ result, r.answer n ≠ some ⟨c, result⟩) : r.Pending c j (n + 1) := by
  obtain ⟨began, call, open'⟩ := h
  refine ⟨by omega, call, fun m after before => ?_⟩
  rcases Nat.lt_succ_iff_lt_or_eq.1 before with earlier | rfl
  · exact open' m after earlier
  · exact ⟨kept, silent⟩

theorem Pending.earlier {m : Nat} (h : r.Pending c j n) (began : j < m) (before : m ≤ n) : r.Pending c j m :=
  ⟨began, h.2.1, fun k after earlier => h.2.2 k after (Nat.lt_of_lt_of_le earlier before)⟩

theorem Returns.not_before {m : Nat} {result : Except DiscoveryError Published} (h : r.Returns c j n result)
    (pending : r.Pending c j m) : m ≤ n :=
  Nat.le_of_not_lt fun before => (pending.2.2 n h.1.1 before).2 result h.2

theorem Returns.unique {m : Nat} {result result' : Except DiscoveryError Published}
    (h : r.Returns c j n result) (h' : r.Returns c j m result') : result = result' := by
  obtain rfl := Nat.le_antisymm (h'.not_before h.1) (h.not_before h'.1)
  cases h.2.symm.trans h'.2
  rfl

/-- What holds when a call begins, and is kept while it is pending, holds as long as it is pending. -/
theorem Pending.induction {P : Nat → Prop} (h : r.Pending c j n) (begins : P (j + 1))
    (keeps : ∀ n, r.Pending c j n → r.event n ≠ .drop c →
      (∀ result, r.answer n ≠ some ⟨c, result⟩) → P n → P (n + 1)) : P n := by
  have began := h.1
  induction began with
  | refl => exact begins
  | @step n began ih =>
    have earlier : r.Pending c j n := h.earlier began (Nat.le_succ n)
    obtain ⟨kept, silent⟩ := h.2.2 n began (Nat.lt_succ_self n)
    exact keeps n earlier kept silent (ih earlier)

/-! ## Fairness -/

/-- Nobody stays for ever where it can move on. -/
structure Fair (r : Execution) : Prop where
  callers : ∀ n c stage, (r.state n).stage? c = some stage →
    ∃ m, n ≤ m ∧ (r.state m).stage? c ≠ some stage
  holder : ∀ n h, (r.state n).holder = some h → ∃ m, n ≤ m ∧ (r.state m).holder ≠ some h

/-- An execution that comes to rest is fair. -/
theorem fair_of_rest {N : Nat}
    (rest : ∀ n, N ≤ n → (r.state n).callers = [] ∧ (r.state n).holder = none) : r.Fair where
  callers n c stage here := by
    have gone := State.stage?_eq_none (rest _ (Nat.le_max_right n N)).1 c
    exact ⟨max n N, Nat.le_max_left n N, by simp [gone]⟩
  holder n h here := ⟨max n N, Nat.le_max_left n N, by simp [(rest _ (Nat.le_max_right n N)).2]⟩

/-! ## Building executions -/

/-- The execution in which nothing happens. -/
def idle (s : State) : Execution where
  state _ := s
  event _ := .pass 0
  answer _ := none
  steps _ := rfl

/-- The execution with one more step before it. -/
def cons {s : State} {e : Event} {a : Option Answer} (r : Execution)
    (first : s.step? e = some (r.state 0, a)) : Execution where
  state | 0 => s | n + 1 => r.state n
  event | 0 => e | n + 1 => r.event n
  answer | 0 => a | n + 1 => r.answer n
  steps | 0 => first | n + 1 => r.steps n

/-- The execution in which the events happen one after the other, if they can, and nothing thereafter. -/
def follow : (s : State) → List Event → Option { r : Execution // r.state 0 = s }
  | s, [] => some ⟨idle s, rfl⟩
  | s, e :: rest =>
    match h : s.step? e with
    | none => none
    | some (s', _) => (follow s' rest).map fun r => ⟨r.1.cons (r.2 ▸ h), rfl⟩

end Execution

end Periscope.Cache
