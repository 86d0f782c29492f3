import Periscope.Pattern.Basic

/-!
# Matching

Where a pattern matches a text and which of several ways is taken. The matcher tries the ways in the
order of preference and hands each end that it reaches to a continuation; the first end that the
continuation accepts is the answer.
-/

namespace Periscope

/-- How far a match has come. -/
structure Cursor where
  /-- The character just before the position. -/
  prev : Option Char
  /-- The characters read since the match began. -/
  pos : Nat
  /-- The text from the position on. -/
  rest : List Char
  /-- The named groups closed so far, the latest first, with the positions where they begin and end. -/
  groups : List (String × Nat × Nat)

namespace Assertion

/-- Whether a character exists and is in the set. -/
private def holds (set : CharSet) (c : Option Char) : Bool := (c.map set.contains).getD false

/-- Whether the assertion is true between `prev` and `next`. -/
def isTrue (prev next : Option Char) : Assertion → Bool
  | .textStart => prev.isNone
  | .textEnd => next.isNone
  | .lineStart => prev.isNone || prev == some '\n'
  | .lineEnd => next.isNone || next == some '\n'
  | .lineStartCrlf =>
    prev.isNone || prev == some '\n' || (prev == some '\r' && next != some '\n')
  | .lineEndCrlf =>
    next.isNone || next == some '\r' || (next == some '\n' && prev != some '\r')
  | .edge kind letters =>
    let before := holds letters prev
    let after := holds letters next
    match kind with
    | .boundary => before != after
    | .inside => before == after
    | .start => !before && after
    | .stop => before && !after
    | .startHalf => !before
    | .stopHalf => !after

end Assertion

namespace Pattern

/-- A matcher hands each end that it reaches from a cursor to a continuation, in order of preference. -/
abbrev Matcher := (Cursor → Option Cursor) → Cursor → Option Cursor

/-- Further rounds of a repetition. A round that reads nothing is given up, so there are no more rounds
than characters in `bound`, the text that remains. -/
def moreRounds (body : Matcher) (greedy : Bool) (next : Cursor → Option Cursor) :
    List Char → Cursor → Option Cursor
  | [], c => next c
  | _ :: bound, c =>
    let again (_ : Unit) : Option Cursor :=
      body (fun d => if c.pos < d.pos then moreRounds body greedy next bound d else none) c
    if greedy then (again ()).orElse fun _ => next c else (next c).orElse again

/-- The matcher of a pattern. The first round of a repetition may read nothing, and then it is the only
one. -/
def run : Pattern → Matcher
  | .empty, next, c => next c
  | .one set, next, c =>
    match c.rest with
    | [] => none
    | x :: rest =>
      if set.contains x then next ⟨some x, c.pos + 1, rest, c.groups⟩ else none
  | .assert a, next, c => if a.isTrue c.prev c.rest.head? then next c else none
  | .seq p q, next, c => run p (run q next) c
  | .alt p q, next, c => (run p next c).orElse fun _ => run q next c
  | .plus p greedy, next, c =>
    run p
      (fun d => if c.pos < d.pos then moreRounds (run p) greedy next d.rest d else next d) c
  | .group name p, next, c =>
    run p (fun d => next { d with groups := (name, c.pos, d.pos) :: d.groups }) c

/-- A stretch of text that a pattern matched. -/
structure Hit where
  text : List Char
  /-- The named groups, with the positions in `text` where they begin and end. -/
  groups : List (String × Nat × Nat)

/-- The match that begins exactly at a position, given the character before and the text behind. -/
def matchAt (p : Pattern) (prev : Option Char) (rest : List Char) : Option Hit :=
  (p.run some ⟨prev, 0, rest, []⟩).map fun stop => ⟨rest.take stop.pos, stop.groups⟩

/-- A text cut at its matches. -/
inductive Segment where
  /-- A character outside all matches. -/
  | plain (c : Char)
  | hit (h : Hit)

/-- Cuts a text from left to right at the matches of `p`. `skip` characters still belong to the last
match; `adjacent` says that the last match ended right here, where an empty match is not taken again. -/
def segmentsFrom (p : Pattern) (prev : Option Char) (skip : Nat) (adjacent : Bool) :
    List Char → List Segment
  | [] =>
    match p.matchAt prev [] with
    | some h => if adjacent then [] else [.hit h]
    | none => []
  | c :: rest =>
    match skip with
    | n + 1 => segmentsFrom p (some c) n true rest
    | 0 =>
      match p.matchAt prev (c :: rest) with
      | none => .plain c :: segmentsFrom p (some c) 0 false rest
      | some h =>
        match h.text.length with
        | 0 =>
          if adjacent then .plain c :: segmentsFrom p (some c) 0 false rest
          else .hit h :: .plain c :: segmentsFrom p (some c) 0 false rest
        | n + 1 => .hit h :: segmentsFrom p (some c) n true rest

end Pattern

end Periscope
