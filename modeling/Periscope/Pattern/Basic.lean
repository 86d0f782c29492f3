import Periscope.Pattern.CharSet

/-!
# Patterns

The syntax of patterns. Where a pattern can match in several ways the order of its parts says which way
is preferred: an alternative prefers its left side, a greedy repetition prefers to go on and a lazy one
prefers to stop.
-/

namespace Periscope

/-- Which edge of a word an assertion asks for. -/
inductive WordEdge where
  /-- A word character on exactly one side. -/
  | boundary
  /-- The opposite of `boundary`. -/
  | inside
  /-- A word character after, none before. -/
  | start
  /-- A word character before, none after. -/
  | stop
  /-- No word character before. -/
  | startHalf
  /-- No word character after. -/
  | stopHalf
  deriving DecidableEq

/-- A condition on the two characters around a position. -/
inductive Assertion where
  | textStart
  | textEnd
  | lineStart
  | lineEnd
  /-- The start of a line where a carriage return also ends a line. -/
  | lineStartCrlf
  | lineEndCrlf
  /-- An edge of a word over the alphabet `letters`. -/
  | edge (kind : WordEdge) (letters : CharSet)
  deriving DecidableEq

/-- A pattern over texts. -/
inductive Pattern where
  /-- The empty text. -/
  | empty
  /-- One character of the set. -/
  | one (set : CharSet)
  /-- The empty text, where the assertion holds. -/
  | assert (assertion : Assertion)
  | seq (first second : Pattern)
  /-- `preferred`, or else `other`. -/
  | alt (preferred other : Pattern)
  /-- One or more times. -/
  | plus (body : Pattern) (greedy : Bool)
  /-- As `body`, remembering the text under a name. -/
  | group (name : String) (body : Pattern)
  deriving DecidableEq

namespace Pattern

/-- The pattern that never matches. -/
def never : Pattern := .one .none

/-- `p` or nothing. -/
def opt (p : Pattern) (greedy : Bool) : Pattern :=
  if greedy then .alt p .empty else .alt .empty p

/-- Any number of times. -/
def star (p : Pattern) (greedy : Bool) : Pattern := (plus p greedy).opt greedy

/-- The patterns one after the other. -/
def seqs : List Pattern → Pattern
  | [] => .empty
  | [p] => p
  | p :: rest => .seq p (seqs rest)

/-- The patterns as alternatives, the first one preferred. -/
def alts : List Pattern → Pattern
  | [] => never
  | [p] => p
  | p :: rest => .alt p (alts rest)

/-- `p` exactly `n` times, then `tail`. -/
def copiesThen (p tail : Pattern) (n : Nat) : Pattern := Nat.repeat (.seq p) n tail

/-- At most `n` times: each further copy is only tried behind the one before it. -/
def upTo (p : Pattern) (greedy : Bool) : Nat → Pattern
  | 0 => .empty
  | n + 1 => Nat.repeat (fun further => (Pattern.seq p further).opt greedy) n (p.opt greedy)

/-- Exactly `n` times. -/
def exactly (p : Pattern) : Nat → Pattern
  | 0 => .empty
  | n + 1 => copiesThen p p n

/-- At least `n` times. -/
def atLeast (p : Pattern) (greedy : Bool) : Nat → Pattern
  | 0 => p.star greedy
  | n + 1 => copiesThen p (.plus p greedy) n

/-- At least `least` and at most `most` times. -/
def between (p : Pattern) (greedy : Bool) (least most : Nat) : Pattern :=
  if most ≤ least then p.exactly least
  else copiesThen p (p.upTo greedy (most - least)) least

/-- The characters of a text, one after the other. -/
def literal (text : String) : Pattern :=
  seqs (text.toList.map fun c => .one (.single c))

/-- The characters of a text, letter case apart. -/
def foldedLiteral (text : String) : Pattern :=
  seqs (text.toList.map fun c => .one (CharSet.single c).fold)

end Pattern

end Periscope
