import Periscope.Cache.Basic

/-!
# A schedule for one thread

Callers run one after the other. A refresh in the background makes no progress until a caller has to wait
for the lock, or until the schedule is told to settle. What fetches answer is given in the order in which
they begin.
-/

namespace Periscope.Cache

/-- What the fetch with a number answers. -/
abbrev Fetcher := Nat → Except DiscoveryError Snapshot

/-- The fetcher that always answers alike. -/
def Fetcher.constant (result : Except DiscoveryError Snapshot) : Fetcher := fun _ => result

/-- The fetcher that answers from a list, and is unavailable behind its end. -/
def Fetcher.script (results : List (Except DiscoveryError Snapshot)) : Fetcher := fun n =>
  (results[n]?).getD (.error (.unavailable "script exhausted"))

namespace State

/-- The state after an event that leaves it alone where it cannot happen. -/
def advance (s : State) (e : Event) : State × List Answer :=
  match s.step? e with
  | some (s, answer) => (s, answer.toList)
  | none => (s, [])

/-- The state after events that happen one after the other. -/
def advanceAll (s : State) : List Event → State × List Answer
  | [] => (s, [])
  | e :: rest =>
    let (s, first) := s.advance e
    let (s, others) := s.advanceAll rest
    (s, first ++ others)

/-- The event that takes the holder of the lock out of a phase. -/
def nextEvent (fetch : Fetcher) (s : State) : Phase → Event
  | .locked => .recheck
  | .missed => .fetch
  | .fetching => .deliver (fetch (s.fetches - 1))
  | .fetched _ => .publish
  | .done _ => .release

/-- Runs the holders of the lock one after the other, for `bound` events at most. -/
def drain (fetch : Fetcher) : Nat → State → State × List Answer
  | 0, s => (s, [])
  | bound + 1, s =>
    match s.holder with
    | none => (s, [])
    | some holder =>
      let (s, first) := s.advance (s.nextEvent fetch holder.phase)
      let (s, others) := drain fetch bound s
      (s, first ++ others)

/-- Lets all that has begun come to its end. A holder of the lock goes through five phases. -/
def settle (fetch : Fetcher) (s : State) : State × List Answer :=
  s.drain fetch (5 * (s.waiting.length + 1))

/-- Starts a caller and runs it as far as it comes without waiting. A fetch that pauses makes it wait. -/
def poll (fetch : Fetcher) (pauses : Bool) (caller : Nat) (s : State) : State × List Answer :=
  let (s, early) := s.advanceAll [.call caller, .look caller, .spawn caller, .ask caller]
  if s.isHeldBy caller then
    let (s, late) := s.advanceAll <|
      if pauses then [.recheck, .fetch, .release]
      else [.recheck, .fetch, .deliver (fetch s.fetches), .publish, .release]
    (s, early ++ late)
  else (s, early)

/-- Starts the callers one after the other. -/
def pollAll (fetch : Fetcher) (pauses : Bool) : List Nat → State → State × List Answer
  | [], s => (s, [])
  | c :: rest, s =>
    let (s, first) := s.poll fetch pauses c
    let (s, others) := pollAll fetch pauses rest s
    (s, first ++ others)

/-- Runs callers that start together to their ends. If one of them has to wait, everything that has begun
is run. -/
def callAll (fetch : Fetcher) (pauses : Bool) (callers : List Nat) (s : State) :
    State × List Answer :=
  let (s, early) := s.pollAll fetch pauses callers
  if early.length < callers.length then
    let (s, late) := s.settle fetch
    (s, early ++ late)
  else (s, early)

/-- What a caller that runs alone gets. -/
def current (fetch : Fetcher) (s : State) : State × Except DiscoveryError Published :=
  let (s, answers) := s.callAll fetch false [0]
  (s, ((answers.find? fun a => a.caller == 0).map Answer.result).getD
    (.error (.unavailable "no answer")))

/-- Starts a caller and gives it up if it has to wait. -/
def abandon (fetch : Fetcher) (pauses : Bool) (caller : Nat) (s : State) :
    State × List Answer :=
  match s.poll fetch pauses caller with
  | (s, []) => s.advance (.drop caller)
  | answered => answered

/-- Invalidates the cached snapshot. -/
def invalidate (s : State) : State := (s.advance .invalidate).1

end State

end Periscope.Cache
