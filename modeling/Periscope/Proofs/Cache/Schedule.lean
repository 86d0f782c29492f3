import Periscope.Cache.Schedule
import Periscope.Proofs.Cache.Progress

/-!
# A caller that runs alone

What a schedule for one thread does are events of the cache, one after the other, and its fetches answer what its
fetcher has for them. So a caller that runs alone returns in an execution that comes to rest behind it, and what it gets
is its answer there. Main result: `current_returns`.
-/

namespace Periscope.Cache

variable {fetch : Fetcher} {s t u : State} {e : Event} {events events' : List Event} {answers answers' : List Answer}
  {c n bound : Nat}

/-! ## Runs -/

/-- The event is one of a schedule with a fetcher: nobody gives up, nothing is invalidated, no time passes, and each
fetch answers what the fetcher has for its number. -/
def Event.Scheduled (fetch : Fetcher) (s : State) : Event → Prop
  | .deliver result => result = fetch (s.fetches - 1)
  | .drop _ | .invalidate | .pass _ => False
  | _ => True

/-- The events of a schedule happen one after the other, and these are their answers. -/
inductive Run (fetch : Fetcher) : State → List Event → State → List Answer → Prop where
  | nil (s : State) : Run fetch s [] s []
  | cons {s t u : State} {e : Event} {a : Option Answer} {events : List Event} {answers : List Answer}
      (scheduled : e.Scheduled fetch s) (first : Step s e t a) (rest : Run fetch t events u answers) :
      Run fetch s (e :: events) u (a.toList ++ answers)

theorem Run.trans (h : Run fetch s events t answers) (h' : Run fetch t events' u answers') :
    Run fetch s (events ++ events') u (answers ++ answers') := by
  induction h with
  | nil => exact h'
  | cons scheduled first _ ih =>
    rw [List.cons_append, List.append_assoc]
    exact .cons scheduled first (ih h')

theorem Run.advanceAll (h : Run fetch s events t answers) : s.advanceAll events = (t, answers) := by
  induction h with
  | nil => rfl
  | cons _ first _ ih => simp [State.advanceAll, State.advance, step?_of_step first, ih]

/-- A run keeps a caller its place in the line for the lock until it is answered. -/
theorem Run.due (h : Run fetch s events t answers) (due : Due s c n) :
    (∃ a ∈ answers, a.caller = c) ∨ ∃ n, Due t c n := by
  induction h generalizing n with
  | nil => exact .inr ⟨n, due⟩
  | @cons s t u e a events answers scheduled first _ ih =>
    by_cases answered : ∃ result, a = some ⟨c, result⟩
    · obtain ⟨result, rfl⟩ := answered
      exact .inl ⟨⟨c, result⟩, List.mem_append_left _ (Option.mem_toList.2 rfl), rfl⟩
    · have kept : e ≠ .drop c := by
        rintro rfl
        exact scheduled
      obtain ⟨n', -, due, -⟩ := first.due due kept fun result same => answered ⟨result, same⟩
      exact (ih due).imp_left fun ⟨a, mem, own⟩ => ⟨a, List.mem_append_right _ mem, own⟩

/-- A run is the beginning of an execution in which nothing happens behind it. -/
theorem Run.exists_execution (h : Run fetch s events t answers) (c : Nat) :
    ∃ r : Execution, r.state 0 = s ∧ (∀ e ∈ events.head?, r.event 0 = e) ∧
      (∀ m < events.length, (r.event m).Scheduled fetch (r.state m)) ∧
      (∀ m, events.length ≤ m → r.state m = t) ∧
      ∀ a, answers.find? (·.caller == c) = some a →
        ∃ n < events.length, r.answer n = some a ∧ ∀ m < n, ∀ result, r.answer m ≠ some ⟨c, result⟩ := by
  induction h with
  | nil s => exact ⟨.idle s, rfl, by simp, by simp, fun _ _ => rfl, by simp⟩
  | @cons s t u e a events answers scheduled first _ ih =>
    obtain ⟨r, start, -, own, rest, answer⟩ := ih
    have begun : s.step? e = some (r.state 0, a) := start ▸ step?_of_step first
    refine ⟨r.cons begun, rfl, by simp [Execution.cons], fun m less => ?_, fun m le => ?_, fun b found => ?_⟩
    · cases m with
      | zero => exact scheduled
      | succ m => exact own m (Nat.lt_of_succ_lt_succ less)
    · cases m with
      | zero => exact absurd le (Nat.not_succ_le_zero _)
      | succ m => exact rest m (Nat.le_of_succ_le_succ le)
    · -- the first event has the answer, or it has none for the caller
      by_cases here : ∃ result, a = some ⟨c, result⟩
      · obtain ⟨result, rfl⟩ := here
        obtain rfl : ⟨c, result⟩ = b := by simpa using found
        exact ⟨0, Nat.succ_pos _, rfl, fun m less => absurd less (Nat.not_lt_zero m)⟩
      · have later : answers.find? (·.caller == c) = some b := by
          cases a with
          | none => exact found
          | some a =>
            have other : a.caller ≠ c := fun same => here ⟨a.result, by rw [← same]⟩
            simpa [other] using found
        obtain ⟨n, less, there, silent⟩ := answer b later
        refine ⟨n + 1, Nat.succ_lt_succ less, there, fun m less' result => ?_⟩
        cases m with
        | zero => exact fun same => here ⟨result, same⟩
        | succ m => exact silent m (Nat.lt_of_succ_lt_succ less') result

theorem answer_call {a : Option Answer} (h : Step s (.call c) t a) : a = none := by
  cases h
  rfl

/-! ## Holders of the lock -/

namespace State

theorem callers_store (s : State) (result : Except DiscoveryError Snapshot) :
    (s.store result).1.callers = s.callers := by
  unfold store
  split
  · rfl
  · split <;> rfl

/-- How many events the holder of the lock and those behind it are from their ends, at most. -/
def load (s : State) : Nat := (s.holder.elim 0 fun h => h.phase.remaining) + 5 * s.waiting.length

theorem load_le (s : State) : s.load ≤ 5 * (s.waiting.length + 1) := by
  unfold load
  cases s.holder with
  | none =>
    rw [Option.elim_none]
    omega
  | some h =>
    have five : h.phase.remaining ≤ 5 := by cases h.phase <;> simp [Phase.remaining]
    rw [Option.elim_some]
    omega

theorem handOver_of_alone (line : s.waiting = []) : s.handOver = { s with holder := none } := by
  unfold handOver
  split
  · rfl
  · next more => cases line.symm.trans more

theorem load_handOver (held : s.holder.isSome) : s.handOver.load < s.load := by
  obtain ⟨h, held⟩ := Option.isSome_iff_exists.1 held
  have := h.phase.remaining_pos
  unfold handOver load
  cases line : s.waiting with
  | nil => simpa [held] using this
  | cons d rest =>
    simp only [holdAs, held, Option.elim_some, Phase.remaining_locked, List.length_cons]
    omega

/-- The holder of the lock can always move on, which brings it and those behind it closer to their ends. -/
theorem exists_next (fetch : Fetcher) {h : Holder} (held : s.holder = some h) :
    ∃ t a, Step s (s.nextEvent fetch h.phase) t a ∧ (s.nextEvent fetch h.phase).Scheduled fetch s ∧
      t.callers = s.callers ∧ (t.holder = none → t.waiting = []) ∧ t.load < s.load := by
  obtain ⟨caller, phase⟩ := h
  -- all but the release leave the line as it is, and the lock with its holder
  have moves {t : State} {phase' : Phase} (step : Step s (s.nextEvent fetch phase) t none)
      (scheduled : (s.nextEvent fetch phase).Scheduled fetch s) (callers : t.callers = s.callers)
      (line : t.waiting = s.waiting) (holder : t.holder = some ⟨caller, phase'⟩)
      (closer : phase'.remaining < phase.remaining) :
      ∃ t a, Step s (s.nextEvent fetch phase) t a ∧ (s.nextEvent fetch phase).Scheduled fetch s ∧
        t.callers = s.callers ∧ (t.holder = none → t.waiting = []) ∧ t.load < s.load := by
    refine ⟨t, none, step, scheduled, callers, by simp [holder], ?_⟩
    simpa [load, holder, held, line] using closer
  cases phase with
  | locked =>
    cases found : s.lookup with
    | fresh p => exact moves (.recheckFresh held found) trivial rfl rfl rfl (by simp [Phase.remaining])
    | _ => exact moves (.recheckMissed held (by simp [found])) trivial rfl rfl rfl (by simp [Phase.remaining])
  | missed => exact moves (.fetch held) trivial rfl rfl rfl (by simp [Phase.remaining])
  | fetching => exact moves (.deliver held) rfl rfl rfl rfl (by simp [Phase.remaining])
  | fetched result =>
    exact moves (.publish held) trivial (s.callers_store result) (s.waiting_store result) rfl
      (by simp [Phase.remaining])
  | done result =>
    refine ⟨_, _, .release held, trivial, ?_, ?_, load_handOver (by simp [held])⟩
    · unfold handOver
      split <;> rfl
    · unfold handOver
      split
      · next line => exact fun _ => line
      · simp [holdAs]

theorem drain_succ {h : Holder} {a : Option Answer} (held : s.holder = some h)
    (step : Step s (s.nextEvent fetch h.phase) t a) :
    s.drain fetch (bound + 1) = ((t.drain fetch bound).1, a.toList ++ (t.drain fetch bound).2) := by
  simp [drain, held, advance, step?_of_step step]

theorem drain_of_free (free : s.holder = none) : s.drain fetch bound = (s, []) := by
  cases bound with
  | zero => rfl
  | succ bound => simp [drain, free]

theorem exists_run_drain (fetch : Fetcher) (bound : Nat) (s : State) :
    ∃ events, Run fetch s events (s.drain fetch bound).1 (s.drain fetch bound).2 := by
  induction bound generalizing s with
  | zero => exact ⟨[], .nil s⟩
  | succ bound ih =>
    cases held : s.holder with
    | none =>
      rw [drain_of_free held]
      exact ⟨[], .nil s⟩
    | some h =>
      obtain ⟨t, a, step, scheduled, -⟩ := exists_next fetch held
      obtain ⟨events, run⟩ := ih t
      rw [drain_succ held step]
      exact ⟨_, .cons scheduled step run⟩

theorem drain_rest (waits : s.holder = none → s.waiting = []) (enough : s.load ≤ bound) :
    (s.drain fetch bound).1.callers = s.callers ∧ (s.drain fetch bound).1.holder = none ∧
      (s.drain fetch bound).1.waiting = [] := by
  induction bound generalizing s with
  | zero =>
    have free : s.holder = none := by
      cases held : s.holder with
      | none => rfl
      | some h =>
        have := h.phase.remaining_pos
        simp [load, held] at enough
        omega
    exact ⟨rfl, free, waits free⟩
  | succ bound ih =>
    cases held : s.holder with
    | none =>
      rw [drain_of_free held]
      exact ⟨rfl, held, waits held⟩
    | some h =>
      obtain ⟨t, a, step, -, callers, waits, less⟩ := exists_next fetch held
      rw [drain_succ held step]
      obtain ⟨callers', rest⟩ := ih waits (by omega)
      exact ⟨callers'.trans callers, rest⟩

theorem exists_run_settle (fetch : Fetcher) (s : State) :
    ∃ events, Run fetch s events (s.settle fetch).1 (s.settle fetch).2 :=
  exists_run_drain fetch _ s

/-- What is settled has come to its end: the lock is free and nobody waits for it. -/
theorem settle_rest (fetch : Fetcher) (waits : s.holder = none → s.waiting = []) :
    (s.settle fetch).1.callers = s.callers ∧ (s.settle fetch).1.holder = none ∧ (s.settle fetch).1.waiting = [] :=
  drain_rest waits s.load_le

/-! ## A caller alone -/

/-- Nobody is under way but perhaps a refresh in the background. -/
structure Quiet (s : State) : Prop where
  callers : s.callers = []
  waiting : s.waiting = []
  background : ∀ h ∈ s.holder, h.caller = none

theorem Initial.quiet (h : s.Initial) : s.Quiet := by
  cases h <;> exact ⟨rfl, rfl, fun _ held => by cases held⟩

theorem Quiet.invalidate (quiet : s.Quiet) : s.invalidate.Quiet := ⟨quiet.callers, quiet.waiting, quiet.background⟩

theorem Quiet.isEngaged (quiet : s.Quiet) (c : Nat) : s.isEngaged c = false := by
  refine isEngaged_eq_false_iff.2 ⟨stage?_eq_none quiet.callers c, by simp [quiet.waiting], fun phase held => ?_⟩
  cases quiet.background _ held

/-- A caller comes and goes without a trace. -/
theorem Quiet.leave_enter (quiet : s.Quiet) (stage : Stage) : (s.enter c stage).leave c = s := by
  obtain ⟨lifetime, now, stored, callers, holder, waiting, fetches, published⟩ := s
  cases quiet.callers
  simp [enter, leave]

theorem Quiet.enter_enter (quiet : s.Quiet) (stage stage' : Stage) :
    (s.enter c stage).enter c stage' = s.enter c stage' := by
  simp [enter, quiet.callers]

theorem run_silent (step : Step s e t none) (scheduled : e.Scheduled fetch s) : Run fetch s [e] t [] :=
  .cons scheduled step (.nil t)

theorem run_answer {a : Answer} (step : Step s e t (some a)) (scheduled : e.Scheduled fetch s) :
    Run fetch s [e] t [a] :=
  .cons scheduled step (.nil t)

section Calls

variable {p : Published}

theorem Quiet.run_call (quiet : s.Quiet) : Run fetch s [.call c] (s.enter c .looking) [] :=
  run_silent (.call (quiet.isEngaged c)) trivial

theorem Quiet.run_fresh (quiet : s.Quiet) (fresh : s.lookup = .fresh p) :
    Run fetch s [.call c, .look c] s [⟨c, .ok p⟩] := by
  have look : Step (s.enter c .looking) (.look c) ((s.enter c .looking).leave c) (some ⟨c, .ok p⟩) :=
    .lookFresh (by simp) fresh
  rw [quiet.leave_enter] at look
  exact quiet.run_call.trans (run_answer look trivial)

theorem Quiet.run_stale (quiet : s.Quiet) (stale : s.lookup = .stale p) :
    Run fetch s [.call c, .look c, .spawn c] { s with holder := s.holder.or (some ⟨none, .locked⟩) }
      [⟨c, .ok p⟩] := by
  have look : Step (s.enter c .looking) (.look c) ((s.enter c .looking).enter c (.found p)) none :=
    .lookStale (by simp) stale
  have spawn : Step (s.enter c (.found p)) (.spawn c)
      { (s.enter c (.found p)).leave c with holder := s.holder.or (some ⟨none, .locked⟩) } (some ⟨c, .ok p⟩) :=
    .spawn (by simp)
  rw [quiet.enter_enter] at look
  rw [quiet.leave_enter] at spawn
  exact (quiet.run_call.trans (run_silent look trivial)).trans (run_answer spawn trivial)

theorem Quiet.run_missing (quiet : s.Quiet) (missing : s.lookup = .missing) :
    Run fetch s [.call c, .look c] (s.enter c .missed) [] := by
  have look : Step (s.enter c .looking) (.look c) ((s.enter c .looking).enter c .missed) none :=
    .lookMissing (by simp) missing
  rw [quiet.enter_enter] at look
  exact quiet.run_call.trans (run_silent look trivial)

theorem Quiet.run_take (quiet : s.Quiet) (free : s.holder = none) :
    Run fetch (s.enter c .missed) [.ask c] (s.holdAs (some c) .locked) [] := by
  have take : Step (s.enter c .missed) (.ask c) (((s.enter c .missed).leave c).holdAs (some c) .locked) none :=
    .take (by simp) free
  rw [quiet.leave_enter] at take
  exact run_silent take trivial

theorem Quiet.run_lineUp (quiet : s.Quiet) {h : Holder} (held : s.holder = some h) :
    Run fetch (s.enter c .missed) [.ask c] { s with waiting := [c] } [] := by
  have lineUp : Step (s.enter c .missed) (.ask c)
      { (s.enter c .missed).leave c with waiting := s.waiting ++ [c] } none := .lineUp (by simp) held
  rw [quiet.leave_enter, quiet.waiting, List.nil_append] at lineUp
  exact run_silent lineUp trivial

/-- A caller that holds the lock and finds nothing fetches and returns. -/
theorem Quiet.exists_run_fetch (quiet : s.Quiet) (missing : s.lookup = .missing) (fetch : Fetcher) (c : Nat) :
    ∃ t result, t.Quiet ∧ Run fetch (s.holdAs (some c) .locked)
      [.recheck, .fetch, .deliver (fetch s.fetches), .publish, .release] t [⟨c, result⟩] := by
  let fetching := { s with fetches := s.fetches + 1 }.holdAs (some c) .fetching
  let fetched := fetching.holdAs (some c) (.fetched (fetch s.fetches))
  let stored := (fetched.store (fetch s.fetches)).1
  let result := (fetched.store (fetch s.fetches)).2
  have recheck : Step (s.holdAs (some c) .locked) .recheck (s.holdAs (some c) .missed) none :=
    .recheckMissed rfl fun p fresh => by cases missing.symm.trans fresh
  have begin : Step (s.holdAs (some c) .missed) .fetch fetching none := .fetch rfl
  have deliver : Step fetching (.deliver (fetch s.fetches)) fetched none := .deliver rfl
  have publish : Step fetched .publish (stored.holdAs (some c) (.done result)) none := .publish rfl
  have release : Step (stored.holdAs (some c) (.done result)) .release
      (stored.holdAs (some c) (.done result)).handOver (some ⟨c, result⟩) := @Step.release _ (some c) result rfl
  refine ⟨_, _, ?_, (((run_silent recheck trivial).trans (run_silent begin trivial)).trans
    (run_silent deliver rfl)).trans ((run_silent publish trivial).trans (run_answer release trivial))⟩
  have line : stored.waiting = [] := (fetched.waiting_store _).trans quiet.waiting
  have callers : stored.callers = [] := (fetched.callers_store _).trans quiet.callers
  rw [handOver_of_alone (s := stored.holdAs (some c) (.done result)) line]
  exact ⟨callers, line, by simp⟩

end Calls

/-! ## Schedules -/

theorem advanceAll_append {first second : List Answer} (h : s.advanceAll events = (t, first))
    (h' : t.advanceAll events' = (u, second)) : s.advanceAll (events ++ events') = (u, first ++ second) := by
  induction events generalizing s first with
  | nil =>
    cases h
    exact h'
  | cons e events ih =>
    simp only [advanceAll, Prod.mk.injEq] at h
    obtain ⟨rest, rfl⟩ := h
    simp [advanceAll, ih (Prod.ext rest rfl)]

theorem Quiet.not_isHeldBy (quiet : s.Quiet) (c : Nat) : s.isHeldBy c = false := by
  have engaged := quiet.isEngaged c
  simp only [State.isEngaged, Bool.or_eq_false_iff] at engaged
  exact engaged.2

/-- A caller that starts alone has its answer at once, or it lines up behind a refresh in the background. -/
theorem Quiet.exists_run_poll (quiet : s.Quiet) (fetch : Fetcher) (c : Nat) :
    (∃ events t result, t.Quiet ∧ s.poll fetch false c = (t, [⟨c, result⟩]) ∧
      Run fetch s (.call c :: events) t [⟨c, result⟩]) ∨
    ∃ events t h, t.callers = [] ∧ t.waiting = [c] ∧ t.holder = some h ∧ s.poll fetch false c = (t, []) ∧
      Run fetch s (.call c :: events) t [] := by
  cases found : s.lookup with
  | fresh p =>
    have run : Run fetch s [.call c, .look c] s [⟨c, .ok p⟩] := quiet.run_fresh found
    have away : s.advanceAll [.spawn c, .ask c] = (s, []) := by
      simp [advanceAll, advance, step?, stage?_eq_none quiet.callers]
    have early : s.advanceAll [.call c, .look c, .spawn c, .ask c] = (s, [⟨c, .ok p⟩]) :=
      advanceAll_append run.advanceAll away
    exact .inl ⟨_, _, _, quiet, by simp [poll, early, quiet.not_isHeldBy], run⟩
  | stale p =>
    let t := { s with holder := s.holder.or (some ⟨none, .locked⟩) }
    have run : Run fetch s [.call c, .look c, .spawn c] t [⟨c, .ok p⟩] := quiet.run_stale found
    have quiet' : t.Quiet := by
      refine ⟨quiet.callers, quiet.waiting, fun h held => ?_⟩
      rcases Option.or_eq_some_iff.1 held with before | ⟨-, here⟩
      · exact quiet.background h before
      · cases here
        rfl
    have away : t.advanceAll [.ask c] = (t, []) := by
      simp [advanceAll, advance, step?, stage?_eq_none quiet'.callers]
    have early : s.advanceAll [.call c, .look c, .spawn c, .ask c] = (t, [⟨c, .ok p⟩]) :=
      advanceAll_append run.advanceAll away
    exact .inl ⟨_, t, _, quiet', by simp [poll, early, quiet'.not_isHeldBy], run⟩
  | missing =>
    have look : Run fetch s [.call c, .look c] (s.enter c .missed) [] := quiet.run_missing found
    have skip : (s.enter c .missed).advanceAll [.spawn c] = (s.enter c .missed, []) := by
      simp [advanceAll, advance, step?]
    cases held : s.holder with
    | none =>
      have take : Run fetch (s.enter c .missed) [.ask c] (s.holdAs (some c) .locked) [] := quiet.run_take held
      have early : s.advanceAll [.call c, .look c, .spawn c, .ask c] = (s.holdAs (some c) .locked, []) :=
        advanceAll_append look.advanceAll (advanceAll_append skip take.advanceAll)
      obtain ⟨t, result, quiet', late⟩ := quiet.exists_run_fetch found fetch c
      refine .inl ⟨_, t, result, quiet', ?_, (look.trans take).trans late⟩
      have holds : (s.holdAs (some c) .locked).isHeldBy c = true := by simp [isHeldBy, holdAs]
      have fetched := late.advanceAll
      simp only [poll, early, holds, ↓reduceIte]
      rw [show (s.holdAs (some c) .locked).fetches = s.fetches from rfl]
      simp [fetched]
    | some h =>
      have lineUp : Run fetch (s.enter c .missed) [.ask c] { s with waiting := [c] } [] := quiet.run_lineUp held
      have early : s.advanceAll [.call c, .look c, .spawn c, .ask c] = ({ s with waiting := [c] }, []) :=
        advanceAll_append look.advanceAll (advanceAll_append skip lineUp.advanceAll)
      have free : State.isHeldBy { s with waiting := [c] } c = false := quiet.not_isHeldBy c
      exact .inr ⟨_, { s with waiting := [c] }, h, quiet.callers, rfl, held, by simp [poll, early, free],
        look.trans lineUp⟩

/-- What comes of a caller that runs alone: a run with an answer for it, behind which nobody is under way. -/
theorem Quiet.exists_run_callAll (quiet : s.Quiet) (fetch : Fetcher) (c : Nat) :
    ∃ events t answers, s.callAll fetch false [c] = (t, answers) ∧ Run fetch s (.call c :: events) t answers ∧
      (∃ a ∈ answers, a.caller = c) ∧ t.Quiet := by
  rcases quiet.exists_run_poll fetch c with ⟨events, t, result, quiet', polled, run⟩ |
    ⟨events, t, h, callers, line, held, polled, run⟩
  · exact ⟨events, t, _, by simp [callAll, pollAll, polled], run, ⟨_, List.mem_singleton_self _, rfl⟩, quiet'⟩
  · -- the caller waits, and all that has begun comes to its end, so it is answered there
    have first : t.waiting = [] ++ c :: [] := line
    have due : Due t c _ := .waiting held first
    have waits : t.holder = none → t.waiting = [] := fun free => by cases held.symm.trans free
    obtain ⟨events', settled⟩ := exists_run_settle fetch t
    obtain ⟨callers', free, line'⟩ := settle_rest fetch waits
    refine ⟨events ++ events', (t.settle fetch).1, (t.settle fetch).2, by simp [callAll, pollAll, polled],
      run.trans settled, ?_, callers'.trans callers, line', by simp [free]⟩
    refine (settled.due due).resolve_right fun ⟨n, due⟩ => ?_
    obtain ⟨h, held⟩ := due.held
    cases held.symm.trans free

end State

/-- A caller that runs alone, whoever ran before it, returns in an execution that is at rest behind it: the result is
its answer there. Only what the fetcher has for a fetch is ever delivered. -/
theorem current_returns (quiet : s.Quiet) (fetch : Fetcher) :
    (s.current fetch).1.Quiet ∧
      ∃ (r : Execution) (n stop : Nat), r.state 0 = s ∧ r.Returns 0 0 n (s.current fetch).2 ∧ n < stop ∧
        (∀ m < stop, (r.event m).Scheduled fetch (r.state m)) ∧
        ∀ m, stop ≤ m → r.state m = (s.current fetch).1 := by
  obtain ⟨events, t, answers, called, run, answered, quiet'⟩ := quiet.exists_run_callAll fetch 0
  obtain ⟨a, found⟩ : ∃ a, answers.find? (·.caller == 0) = some a := by
    simpa [← Option.isSome_iff_exists] using answered
  have own : a.caller = 0 := by simpa using List.find?_some found
  obtain ⟨r, start, begin, scheduled, rest, answer⟩ := run.exists_execution 0
  obtain ⟨n, less, there, silent⟩ := answer a found
  have call : r.event 0 = .call 0 := begin _ rfl
  have current : s.current fetch = (t, a.result) := by simp [State.current, called, found]
  rw [current]
  have later : 0 < n := by
    refine Nat.pos_of_ne_zero fun first => ?_
    subst first
    cases there.symm.trans (answer_call (Execution.step_at call))
  refine ⟨quiet', r, n, _, start, ⟨⟨later, call, fun m _ before => ⟨fun drop => ?_, silent m before⟩⟩, ?_⟩,
    less, scheduled, rest⟩
  · have planned := scheduled m (Nat.lt_trans before less)
    rw [drop] at planned
    exact planned
  · rw [there, ← own]

end Periscope.Cache
