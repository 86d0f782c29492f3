/-!
# Shortest decimals

The decimal with the fewest digits that reads back as a given binary number, and of those the nearest.
The number is given as `m * 2 ^ q`; all arithmetic is on exact fractions.
-/

namespace Periscope.Decimal

/-- A positive decimal: the digits, read as an integer without trailing zeros, and the exponent of ten of
the first digit. -/
structure Shortest where
  digits : Nat
  exponent : Int

/-- The number of decimal digits of `n`. -/
def digitCount (n : Nat) : Nat := (Nat.toDigits 10 n).length

/-- The fraction `n * base ^ e` as a numerator and a denominator. -/
def scaled (n base : Nat) (e : Int) : Nat × Nat :=
  if 0 ≤ e then (n * Nat.pow base e.toNat, 1) else (n, Nat.pow base (-e).toNat)

/-- The exponent of ten of the first digit of a positive fraction. -/
def leadingExponent (num den : Nat) : Int :=
  if den ≤ num then digitCount (num / den) - 1
  else
    let guess := digitCount (den / num)
    if den ≤ num * Nat.pow 10 (guess - 1) then -((guess - 1 : Nat) : Int) else -(guess : Int)

/-- The reals that round to a binary number, as fractions of one denominator. -/
structure Interval where
  low : Nat
  value : Nat
  high : Nat
  den : Nat
  /-- Whether the two ends round to the number as well. -/
  closed : Bool

/-- The reals that round to `m * 2 ^ q`. Below a power of two the neighbour is only half as far away,
except at the smallest exponent. -/
def Interval.around (m : Nat) (q : Int) (halfBelow : Bool) : Interval :=
  let (num, den) := scaled 1 2 (q - 2)
  { low := (4 * m - if halfBelow then 1 else 2) * num
    value := 4 * m * num
    high := (4 * m + 2) * num
    den
    closed := m % 2 == 0 }

/-- Whether the fraction `num / den` rounds to the number. -/
def Interval.contains (i : Interval) (num den : Nat) : Bool :=
  let x := num * i.den
  if i.closed then i.low * den ≤ x && x ≤ i.high * den
  else i.low * den < x && x < i.high * den

/-- The nearest decimal of `n` digits that lies in the interval, of two equally near ones the even. -/
def Interval.nearest? (i : Interval) (leading : Int) (n : Nat) : Option Nat :=
  let step := leading - (n - 1 : Nat)
  let (up, down) := if 0 ≤ step then (1, Nat.pow 10 step.toNat) else (Nat.pow 10 (-step).toNat, 1)
  let floor := i.value * up / (i.den * down)
  let rest := i.value * up % (i.den * down)
  let fits (d : Nat) : Bool := i.contains (d * down) up
  let twice := 2 * rest
  let half := i.den * down
  let preferFloor := twice < half || (twice == half && floor % 2 == 0)
  match fits floor, fits (floor + 1) with
  | true, true => some (if preferFloor then floor else floor + 1)
  | true, false => some floor
  | false, true => some (floor + 1)
  | false, false => none

/-- Removes trailing zeros, at most `bound` of them. -/
def stripZeros : Nat → Nat → Nat
  | 0, n => n
  | bound + 1, n => if n != 0 && n % 10 == 0 then stripZeros bound (n / 10) else n

/-- The shortest decimal for the positive number `m * 2 ^ q`. Seventeen digits always suffice. -/
def shortest (m : Nat) (q : Int) (halfBelow : Bool) : Shortest :=
  let i := Interval.around m q halfBelow
  let leading := leadingExponent i.value i.den
  let found := (List.range 17).findSome? fun n =>
    (i.nearest? leading (n + 1)).map fun d => (d, n + 1)
  let (d, n) := found.getD (0, 1)
  let carried := digitCount d - n
  ⟨stripZeros 18 d, leading + carried⟩

/-- How a decimal is laid out as text. -/
structure Layout where
  /-- The smallest exponent of the first digit that is written without an exponent. -/
  leastPositional : Int
  /-- The greatest such exponent. -/
  mostPositional : Int
  /-- The fewest digits of a written exponent. -/
  exponentDigits : Nat

/-- Writes a decimal. A whole number keeps one zero behind the point, and a written exponent its sign. -/
def Layout.render (layout : Layout) (d : Shortest) : String :=
  let digits := Nat.toDigits 10 d.digits
  let zeros (n : Nat) : List Char := List.replicate n '0'
  if layout.leastPositional ≤ d.exponent && d.exponent ≤ layout.mostPositional then
    if d.exponent < 0 then
      String.ofList ("0.".toList ++ zeros ((-d.exponent).toNat - 1) ++ digits)
    else
      let whole := d.exponent.toNat + 1
      let padded := digits ++ zeros (whole - digits.length)
      let rest := padded.drop whole
      String.ofList (padded.take whole ++ '.' :: (if rest.isEmpty then ['0'] else rest))
  else
    let exponent := Nat.toDigits 10 d.exponent.natAbs
    let fraction := if digits.length ≤ 1 then [] else '.' :: digits.drop 1
    String.ofList (digits.take 1 ++ fraction ++ ['e', if d.exponent < 0 then '-' else '+'] ++
      zeros (layout.exponentDigits - exponent.length) ++ exponent)

end Periscope.Decimal
