import Periscope.Discovery.Snapshot

/-!
# The discovery cache

A cache shares snapshots among callers and fetches a new one when the last has expired or has been
invalidated. Callers, fetches and time are the events of a transition system. A caller that finds a fresh
snapshot takes it. One that finds an expired snapshot takes that too and leaves a refresh running in the
background. One that finds none waits for the lock, looks again, and fetches; the lock keeps fetches apart.

A caller looks at the cache in one event and acts upon what it has found in a later one. So does the holder
of the lock, which looks, fetches, stores and gives up the lock in events of their own. Anything may happen
between them.
-/

namespace Periscope.Cache

/-- A snapshot that has been published, numbered in the order of publication. -/
structure Published where
  number : Nat
  snapshot : Snapshot

/-- The last published snapshot. -/
structure Stored where
  published : Published
  /-- When it was loaded or last confirmed; `none` once it has been invalidated. -/
  loadedAt : Option Nat

/-- How far a caller has come that neither waits for the lock nor holds it. -/
inductive Stage where
  /-- It has yet to look at the cache. -/
  | looking
  /-- It has found an expired snapshot and has yet to start a refresh. -/
  | found (p : Published)
  /-- It has found nothing and has yet to ask for the lock. -/
  | missed

/-- How far the holder of the lock has come. -/
inductive Phase where
  /-- It has yet to look at the cache again. -/
  | locked
  /-- It has found nothing fresh and has yet to begin a fetch. -/
  | missed
  | fetching
  /-- The fetch has answered and its result is not stored yet. -/
  | fetched (result : Except DiscoveryError Snapshot)
  /-- It knows its answer and has yet to give up the lock. -/
  | done (result : Except DiscoveryError Published)

/-- Whether a caller at a stage can be given up: one that has found a snapshot returns it without a pause. -/
def Stage.awaits : Stage → Bool
  | .looking | .missed => true
  | .found _ => false

/-- Whether a caller in a phase can be given up: the steps that await nothing are not parted. -/
def Phase.awaits : Phase → Bool
  | .locked | .fetching | .fetched _ => true
  | .missed | .done _ => false

/-- Who holds the lock: a caller, or a refresh in the background. -/
structure Holder where
  caller : Option Nat
  phase : Phase

/-- The state of a cache. -/
structure State where
  /-- How long a snapshot stays fresh; `none` means for ever. -/
  lifetime : Option Nat
  now : Nat
  stored : Option Stored
  /-- The callers that neither wait for the lock nor hold it. -/
  callers : List (Nat × Stage)
  holder : Option Holder
  /-- The callers that wait for the lock, in the order of their arrival. -/
  waiting : List Nat
  /-- The number of fetches begun. -/
  fetches : Nat
  /-- The number of snapshots published. -/
  published : Nat

/-- What a look at the cache finds. -/
inductive Lookup where
  | fresh (p : Published)
  /-- Expired but not invalidated. -/
  | stale (p : Published)
  | missing

/-- What can happen. -/
inductive Event where
  /-- A caller asks for the current snapshot. -/
  | call (caller : Nat)
  /-- A caller looks at the cache. -/
  | look (caller : Nat)
  /-- A caller with an expired snapshot starts a refresh, unless one is running, and returns. -/
  | spawn (caller : Nat)
  /-- A caller that has found nothing takes the lock or lines up for it. -/
  | ask (caller : Nat)
  /-- The holder of the lock looks at the cache again. -/
  | recheck
  /-- The holder of the lock begins a fetch. -/
  | fetch
  /-- The fetch in flight answers. -/
  | deliver (result : Except DiscoveryError Snapshot)
  /-- The result of the fetch is stored. -/
  | publish
  /-- The holder of the lock gives it up and returns. -/
  | release
  /-- A caller gives up. -/
  | drop (caller : Nat)
  | invalidate
  /-- Time passes. -/
  | pass (time : Nat)

/-- What a caller gets. -/
structure Answer where
  caller : Nat
  result : Except DiscoveryError Published

namespace State

/-- A cache that has fetched nothing yet. -/
def empty (lifetime : Option Nat) : State := ⟨lifetime, 0, none, [], none, [], 0, 0⟩

/-- A cache that starts with a snapshot which never expires. -/
def ofSnapshot (s : Snapshot) : State :=
  ⟨none, 0, some ⟨⟨0, s⟩, some 0⟩, [], none, [], 0, 1⟩

/-- Whether a snapshot loaded at a time is still fresh. -/
def isFresh (s : State) (loadedAt : Nat) : Bool := s.lifetime.all (s.now - loadedAt < ·)

/-- Looks at the cache. -/
def lookup (s : State) : Lookup :=
  match s.stored with
  | none => .missing
  | some stored =>
    match stored.loadedAt with
    | none => .missing
    | some at' => if s.isFresh at' then .fresh stored.published else .stale stored.published

/-! ## Callers -/

/-- The stage of a caller that neither waits for the lock nor holds it. -/
def stage? (s : State) (c : Nat) : Option Stage := s.callers.lookup c

/-- Takes a caller to a stage. -/
def enter (s : State) (c : Nat) (stage : Stage) : State :=
  { s with callers := (c, stage) :: s.callers.filter (·.1 != c) }

/-- Takes a caller from its stage. -/
def leave (s : State) (c : Nat) : State := { s with callers := s.callers.filter (·.1 != c) }

/-- Whether a caller holds the lock. -/
def isHeldBy (s : State) (c : Nat) : Bool := s.holder.any (·.caller == some c)

/-- Whether a caller is under way. -/
def isEngaged (s : State) (c : Nat) : Bool :=
  (s.stage? c).isSome || s.waiting.contains c || s.isHeldBy c

/-- Takes the holder of the lock to a phase. -/
def holdAs (s : State) (caller : Option Nat) (phase : Phase) : State :=
  { s with holder := some ⟨caller, phase⟩ }

/-- Gives the lock to the caller that has waited longest. -/
def handOver (s : State) : State :=
  match s.waiting with
  | [] => { s with holder := none }
  | c :: rest => { s with waiting := rest }.holdAs (some c) .locked

/-- The answer to the caller that holds the lock; a background refresh has nobody to answer. -/
def answerHolder (caller : Option Nat) (result : Except DiscoveryError Published) : Option Answer :=
  caller.map fun c => ⟨c, result⟩

/-! ## Events -/

/-- Stores the result of a fetch. A failure confirms the previous snapshot, if there is one. -/
def store (s : State) (result : Except DiscoveryError Snapshot) :
    State × Except DiscoveryError Published :=
  match result with
  | .ok snapshot =>
    let p : Published := ⟨s.published, snapshot⟩
    ({ s with stored := some ⟨p, some s.now⟩, published := s.published + 1 }, .ok p)
  | .error e =>
    match s.stored with
    | some stored => ({ s with stored := some { stored with loadedAt := some s.now } }, .ok stored.published)
    | none => (s, .error e)

/-- Invalidates the stored snapshot, if there is one. -/
def expire (s : State) : State :=
  { s with stored := s.stored.map fun stored => { stored with loadedAt := none } }

/-- Gives up a caller, wherever it can be given up. -/
def abort? (s : State) (c : Nat) : Option State :=
  match s.stage? c with
  | some stage => if stage.awaits then some (s.leave c) else none
  | none =>
    if s.waiting.contains c then some { s with waiting := s.waiting.filter (· != c) }
    else if s.holder.any fun h => h.caller == some c && h.phase.awaits then some s.handOver
    else none

/-- The state after an event and the answer that a caller gets, if the event can happen. -/
def step? (s : State) : Event → Option (State × Option Answer)
  | .call c => if s.isEngaged c then none else some (s.enter c .looking, none)
  | .look c =>
    match s.stage? c with
    | some .looking =>
      match s.lookup with
      | .fresh p => some (s.leave c, some ⟨c, .ok p⟩)
      | .stale p => some (s.enter c (.found p), none)
      | .missing => some (s.enter c .missed, none)
    | _ => none
  | .spawn c =>
    match s.stage? c with
    | some (.found p) =>
      some ({ s.leave c with holder := s.holder.or (some ⟨none, .locked⟩) }, some ⟨c, .ok p⟩)
    | _ => none
  | .ask c =>
    match s.stage? c with
    | some .missed =>
      match s.holder with
      | none => some ((s.leave c).holdAs (some c) .locked, none)
      | some _ => some ({ s.leave c with waiting := s.waiting ++ [c] }, none)
    | _ => none
  | .recheck =>
    match s.holder with
    | some ⟨caller, .locked⟩ =>
      match s.lookup with
      | .fresh p => some (s.holdAs caller (.done (.ok p)), none)
      | _ => some (s.holdAs caller .missed, none)
    | _ => none
  | .fetch =>
    match s.holder with
    | some ⟨caller, .missed⟩ =>
      some ({ s with fetches := s.fetches + 1 }.holdAs caller .fetching, none)
    | _ => none
  | .deliver result =>
    match s.holder with
    | some ⟨caller, .fetching⟩ => some (s.holdAs caller (.fetched result), none)
    | _ => none
  | .publish =>
    match s.holder with
    | some ⟨caller, .fetched result⟩ =>
      let (s, answer) := s.store result
      some (s.holdAs caller (.done answer), none)
    | _ => none
  | .release =>
    match s.holder with
    | some ⟨caller, .done result⟩ => some (s.handOver, answerHolder caller result)
    | _ => none
  | .drop c => (s.abort? c).map (·, none)
  | .invalidate => some (s.expire, none)
  | .pass time => some ({ s with now := s.now + time }, none)

end State

end Periscope.Cache
