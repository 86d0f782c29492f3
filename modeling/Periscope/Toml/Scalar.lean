import Periscope.Toml.Basic

/-!
# Numbers and times

What stands without quotes: truth values, integers in four bases, floats, dates and times of day.
-/

namespace Periscope.Toml

/-! ## Numbers -/

/-- The digits without the underscores between them; an underscore has a digit on either side. -/
def plainDigits (isDigit : Char → Bool) : List Char → Option (List Char)
  | [] => none
  | [c] => if isDigit c then some [c] else none
  | c :: '_' :: rest => if isDigit c then (plainDigits isDigit rest).map (c :: ·) else none
  | c :: rest => if isDigit c then (plainDigits isDigit rest).map (c :: ·) else none

/-- The value of a digit in any base up to sixteen. -/
def digitValue (c : Char) : Nat :=
  if c.isDigit then c.toNat - 0x30 else if 'a' ≤ c then c.toNat - 0x57 else c.toNat - 0x37

/-- The number that digits denote in a base. -/
def numberOfDigits (base : Nat) (digits : List Char) : Nat :=
  digits.foldl (fun n c => base * n + digitValue c) 0

/-- Whether a character is a digit of a base. -/
def isDigitOf (base : Nat) (c : Char) : Bool :=
  (c.isDigit || ('a' ≤ c && c ≤ 'f') || ('A' ≤ c && c ≤ 'F')) && digitValue c < base

/-- The sign of a number, and the number without it. -/
def splitSign : List Char → Bool × List Char
  | '-' :: rest => (true, rest)
  | '+' :: rest => (false, rest)
  | s => (false, s)

/-- The digits of a decimal number, which has no zeros in front. -/
def decimalDigits (s : List Char) : Option (List Char) := do
  let digits ← plainDigits Char.isDigit s
  if digits.head? == some '0' && digits.length != 1 then none else some digits

/-- An integer of 64 bits with its sign. -/
def integer? (s : List Char) : Option Int :=
  let inBase (base : Nat) (rest : List Char) : Option Int := do
    let n := numberOfDigits base (← plainDigits (isDigitOf base) rest)
    if n < 0x8000000000000000 then some n else none
  match s with
  | '0' :: 'x' :: rest => inBase 16 rest
  | '0' :: 'o' :: rest => inBase 8 rest
  | '0' :: 'b' :: rest => inBase 2 rest
  | s => do
    let (isNegative, rest) := splitSign s
    let n := numberOfDigits 10 (← decimalDigits rest)
    if isNegative then if n ≤ 0x8000000000000000 then some (-n) else none
    else if n < 0x8000000000000000 then some n
    else none

/-- The double for a decimal: a number of digits far beyond the range of doubles is not computed. -/
def floatOfDecimal (isNegative : Bool) (digits : List Char) (exponent : Int) : Float :=
  let n := numberOfDigits 10 digits
  let magnitude := exponent + (toString n).length
  let x : Float :=
    if n == 0 || magnitude < -400 then 0.0
    else if 400 < magnitude then 1.0 / 0.0
    else if exponent < 0 then Float.ofScientific n true exponent.natAbs
    else Float.ofScientific n false exponent.natAbs
  if isNegative then -x else x

/-- A number with a fraction or an exponent, or one of the words for what is no number. A value that is too
large is refused. -/
def float? (s : List Char) : Option Float := do
  let (isNegative, rest) := splitSign s
  if rest == "inf".toList then some (if isNegative then -1.0 / 0.0 else 1.0 / 0.0)
  else if rest == "nan".toList then some (0.0 / 0.0)
  else
    let isMark (c : Char) : Bool := c == 'e' || c == 'E'
    let mantissa := rest.takeWhile fun c => !isMark c
    let exponent := (rest.dropWhile fun c => !isMark c).drop 1
    let hasExponent := mantissa.length < rest.length
    let whole ← decimalDigits (mantissa.takeWhile (· != '.'))
    let fraction ←
      match mantissa.dropWhile (· != '.') with
      | [] => if hasExponent then some [] else none
      | _ :: digits => plainDigits Char.isDigit digits
    let (isDown, power) := splitSign exponent
    let power ← if hasExponent then plainDigits Char.isDigit power else some []
    let power : Int := numberOfDigits 10 power
    let x := floatOfDecimal isNegative (whole ++ fraction)
      ((if isDown then -power else power) - fraction.length)
    if x == 1.0 / 0.0 then none else some x

/-! ## Times -/

/-- The number that just so many digits denote. -/
def fixedNumber? (count : Nat) (s : List Char) : Option Nat :=
  if s.length == count && s.all Char.isDigit then some (numberOfDigits 10 s) else none

/-- The number of days of a month. -/
def daysOfMonth (year month : Nat) : Nat :=
  let isLeap := year % 4 == 0 && (year % 100 != 0 || year % 400 == 0)
  if month == 2 then (if isLeap then 29 else 28)
  else if [4, 6, 9, 11].contains month then 30
  else 31

/-- Whether a text is a date such as `1979-05-27`. -/
def isDate (s : List Char) : Bool :=
  match fixedNumber? 4 (s.take 4), s.drop 4 with
  | some year, ['-', a, b, '-', c, d] =>
    match fixedNumber? 2 [a, b], fixedNumber? 2 [c, d] with
    | some month, some day =>
      1 ≤ month && month ≤ 12 && 1 ≤ day && day ≤ daysOfMonth year month
    | _, _ => false
  | _, _ => false

/-- The text behind hours and minutes such as `07:32`. -/
def afterMinutes : List Char → Option (List Char)
  | a :: b :: ':' :: c :: d :: rest => do
    let hours ← fixedNumber? 2 [a, b]
    let minutes ← fixedNumber? 2 [c, d]
    if hours < 24 && minutes < 60 then some rest else none
  | _ => none

/-- The text behind a time of day such as `07:32:00.5`. -/
def afterTimeOfDay (s : List Char) : Option (List Char) := do
  match ← afterMinutes s with
  | ':' :: a :: b :: rest =>
    let seconds ← fixedNumber? 2 [a, b]
    if 60 < seconds then none
    else
      match rest with
      | '.' :: rest =>
        if (rest.takeWhile Char.isDigit).isEmpty then none else some (rest.dropWhile Char.isDigit)
      | rest => some rest
  | _ => none

/-- Whether a text is a time of day. -/
def isTimeOfDay (s : List Char) : Bool := afterTimeOfDay s == some []

/-- Whether a text is a time of day, perhaps with its distance from the prime meridian. -/
def isZonedTime (s : List Char) : Bool :=
  match afterTimeOfDay s with
  | some [] => true
  | some ['Z'] => true
  | some ['z'] => true
  | some ('+' :: rest) => afterMinutes rest == some []
  | some ('-' :: rest) => afterMinutes rest == some []
  | _ => false

/-- Whether a text is a date, a time of day, or both with a letter between them. -/
def isTime (s : List Char) : Bool :=
  isTimeOfDay s || isDate s ||
    (isDate (s.take 10) &&
      match s.drop 10 with
      | 'T' :: rest => isZonedTime rest
      | 't' :: rest => isZonedTime rest
      | _ => false)

/-! ## Words -/

/-- Whether a character may stand in a value without quotes. -/
def isWordPart (c : Char) : Bool := c.isAlphanum || "+-_.:".toList.contains c

/-- The value that a word denotes. -/
def ofWord? (word : List Char) : Option Value :=
  if word == "true".toList then some (.flag true)
  else if word == "false".toList then some (.flag false)
  else if isTime word then some (.time (String.ofList word))
  else
    match float? word with
    | some x => some (.float x)
    | none => (integer? word).map .integer

/-- The value without quotes at the front. A date and a time may have a blank between them. -/
def unquoted (s : List Char) : Option (Value × List Char) :=
  let word := s.takeWhile isWordPart
  let rest := s.dropWhile isWordPart
  let second := (rest.drop 1).takeWhile isWordPart
  if rest.head? == some ' ' && isDate word && isZonedTime second then
    some (.time (String.ofList (word ++ ' ' :: second)), (rest.drop 1).dropWhile isWordPart)
  else (ofWord? word).map (·, rest)

end Periscope.Toml
