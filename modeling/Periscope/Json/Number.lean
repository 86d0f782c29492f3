import Periscope.Decimal.Shortest

/-!
# Numbers of JSON

A number is an integer of at most 64 bits or else a binary double. Doubles are kept by their bits, so
that two numbers are equal only if they print alike.
-/

namespace Periscope.Json

/-- A number. -/
inductive Number where
  /-- From `-2 ^ 63` up to `2 ^ 64 - 1`. -/
  | int (n : Int)
  | double (bits : UInt64)
  deriving DecidableEq

namespace Number

/-- Doubles are positional from five zeros behind the point up to sixteen digits before it, and always
show a point or an exponent; an exponent has its sign and two digits at least. -/
def layout : Decimal.Layout := ⟨-5, 15, 2⟩

/-- The text of a finite double. -/
def renderDouble (bits : UInt64) : String :=
  let field := ((bits >>> 52) &&& 0x7FF).toNat
  let fraction := (bits &&& 0xFFFFFFFFFFFFF).toNat
  let sign := if bits >>> 63 == 1 then "-" else ""
  if field == 0 && fraction == 0 then sign ++ "0.0"
  else
    let m := if field == 0 then fraction else fraction + 0x10000000000000
    let q : Int := (if field == 0 then 1 else field) - 1075
    sign ++ layout.render (Decimal.shortest m q (fraction == 0 && 1 < field))

/-- The text of a number. -/
def render : Number → String
  | .int n => toString n
  | .double bits => renderDouble bits

/-- The double `10 ^ k`. -/
def powerOfTen (k : Nat) : Float := Float.ofScientific 1 false k

/-- Divides by `10 ^ k`, by at most `10 ^ 308` at a time. -/
def divideByPower (bound : Nat) (x : Float) (k : Nat) : Float :=
  match bound with
  | 0 => x
  | bound + 1 =>
    if k ≤ 308 then x / powerOfTen k
    else if x == 0 then x
    else divideByPower bound (x / 1e308) (k - 308)

/-- The double for a significand and a power of ten: the significand is rounded to a double first, and
the product or quotient is rounded again. A result beyond the doubles is refused. -/
def ofParts? (negative : Bool) (significand : UInt64) (exponent : Int) : Option Number :=
  let x := significand.toFloat
  let signed (y : Float) : Number := .double (if negative then -y else y).toBits
  if exponent < 0 then some (signed (divideByPower 8 x (-exponent).toNat))
  else if 308 < exponent then
    if x == 0 then some (signed x) else none
  else
    let y := x * powerOfTen exponent.toNat
    if y.isInf then none else some (signed y)

/-- The parts of a number as it is written: the digits before the point, those behind it, and the
exponent if there is one. -/
structure Written where
  negative : Bool
  whole : List Char
  fraction : Option (List Char)
  exponent : Option (Bool × List Char)

/-- Reads digits into a significand of 64 bits until the next digit would not fit. Gives the significand
and the number of digits that did not fit. -/
def significand (n : Nat) : List Char → Nat × Nat
  | [] => (n, 0)
  | c :: rest =>
    let next := 10 * n + (c.toNat - 0x30)
    if 0x10000000000000000 ≤ next then (n, rest.length + 1) else significand next rest

/-- The number that a written one denotes. Digits of a significand beyond 64 bits are dropped: before
the point they still count as places. -/
def ofWritten? (w : Written) : Option Number :=
  let (whole, wholeDropped) := significand 0 w.whole
  match w.fraction, w.exponent with
  | none, none =>
    if wholeDropped == 0 then
      if !w.negative then some (.int whole)
      else if whole == 0 || 0x8000000000000000 < whole then
        some (.double (-(UInt64.ofNat whole).toFloat).toBits)
      else some (.int (-whole))
    else ofParts? w.negative (UInt64.ofNat whole) wholeDropped
  | fraction, exponent =>
    let fraction := fraction.getD []
    let (all, dropped) := significand whole fraction
    let places : Int := wholeDropped - (fraction.length - dropped : Nat)
    match exponent with
    | none => ofParts? w.negative (UInt64.ofNat all) places
    | some (down, digits) =>
      let e : Nat := digits.foldl (fun n c => 10 * n + (c.toNat - 0x30)) 0
      if 0x80000000 ≤ e then
        if all != 0 && !down then none
        else some (.double (if w.negative then (-0.0 : Float) else 0.0).toBits)
      else ofParts? w.negative (UInt64.ofNat all) (if down then places - (e : Int) else places + (e : Int))

end Number

end Periscope.Json
