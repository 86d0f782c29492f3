import Periscope.Http.Percent
import Periscope.Text.Lowercase
import Periscope.Text.Ranges

/-!
# Hosts

The host of a URL: a domain name, or an address of the fourth or the sixth version of the protocol.
-/

namespace Periscope.Http

open Text

/-- Why a text is no URL. -/
inductive UrlError where
  | relative
  | emptyHost
  | invalidDomain
  | invalidCharacter
  | invalidIpv4
  | invalidIpv6
  | invalidPort
  deriving DecidableEq

/-- The text of an error. -/
def UrlError.message : UrlError → String
  | .relative => "relative URL without a base"
  | .emptyHost => "empty host"
  | .invalidDomain => "invalid international domain name"
  | .invalidCharacter => "invalid domain character"
  | .invalidIpv4 => "invalid IPv4 address"
  | .invalidIpv6 => "invalid IPv6 address"
  | .invalidPort => "invalid port number"

/-- A host. -/
inductive Host where
  | domain (name : String)
  | ipv4 (address : Nat)
  /-- Eight numbers of sixteen bits. -/
  | ipv6 (pieces : List Nat)
  deriving DecidableEq

namespace Host

/-- The parts of a text between the occurrences of a character. -/
def splitAt (separator : Char) : List Char → List (List Char)
  | [] => [[]]
  | c :: rest =>
    match splitAt separator rest with
    | [] => [[]]
    | first :: others =>
      if c == separator then [] :: first :: others else (c :: first) :: others

/-! ## Addresses of the fourth version -/

/-- A part of an address: octal behind a zero, hexadecimal behind `0x`, else decimal. -/
def ipv4Number? (s : List Char) : Option Nat :=
  let inBase (base : Nat) (digits : List Char) : Option Nat := do
    let values ← digits.mapM hexDigitValue?
    if values.all (· < base) then some (values.foldl (fun n d => base * n + d) 0) else none
  match s with
  | [] => none
  | '0' :: 'x' :: rest => inBase 16 rest
  | '0' :: 'X' :: rest => inBase 16 rest
  | ['0'] => some 0
  | '0' :: rest => inBase 8 rest
  | s => inBase 10 s

/-- The parts of a domain name, without an empty one at the end. -/
def nameParts (s : List Char) : List (List Char) :=
  let parts := splitAt '.' s
  if parts.getLast? == some [] then parts.dropLast else parts

/-- Whether the last part of a domain name is a number, so that the name has to be an address. -/
def endsInNumber (s : List Char) : Bool :=
  match (nameParts s).getLast? with
  | some last => (!last.isEmpty && last.all Char.isDigit) || (ipv4Number? last).isSome
  | none => false

/-- An address of the fourth version. Its last number fills what the others leave. -/
def ipv4? (s : List Char) : Option Nat := do
  let numbers ← (nameParts s).mapM ipv4Number?
  let last ← numbers.getLast?
  let front := numbers.dropLast
  if 3 < front.length || front.any (255 < ·) || Nat.pow 256 (4 - front.length) ≤ last then none
  else
    some (front.zipIdx.foldl (fun address (n, i) => address + n * Nat.pow 256 (3 - i)) last)

/-- The text of an address of the fourth version. -/
def renderIpv4 (address : Nat) : String :=
  ".".intercalate ([3, 2, 1, 0].map fun i => toString (address / Nat.pow 256 i % 256))

/-! ## Addresses of the sixth version -/

/-- The two numbers that a dotted address stands for inside a longer one. -/
def dottedPieces? (s : List Char) : Option (List Nat) := do
  let numbers ← (splitAt '.' s).mapM fun part => do
    if part.isEmpty || !part.all Char.isDigit || (part.length != 1 && part.head? == some '0') then
      none
    else
      let n := part.foldl (fun n c => 10 * n + (c.toNat - 0x30)) 0
      if n ≤ 255 then some n else none
  match numbers with
  | [a, b, c, d] => some [256 * a + b, 256 * c + d]
  | _ => none

/-- The numbers between colons; only the last part may be a dotted address. -/
def pieces? (s : List Char) : Option (List Nat) :=
  if s.isEmpty then some []
  else
    let parts := splitAt ':' s
    let number? (part : List Char) : Option (List Nat) := do
      if part.isEmpty || 4 < part.length then none
      else
        let digits ← part.mapM hexDigitValue?
        some [digits.foldl (fun n d => 16 * n + d) 0]
    do
      let front ← parts.dropLast.mapM number?
      let last ← parts.getLast?
      let last ← if last.contains '.' then dottedPieces? last else number? last
      some (front.flatten ++ last)

/-- The parts before and behind the first two colons in a row. -/
def splitDoubleColon : List Char → Option (List Char × List Char)
  | ':' :: ':' :: rest => some ([], rest)
  | c :: rest => (splitDoubleColon rest).map fun (front, back) => (c :: front, back)
  | [] => none

/-- An address of the sixth version. Two colons in a row stand for zeros, one at least. -/
def ipv6? (s : List Char) : Option (List Nat) := do
  match splitDoubleColon s with
  | none =>
    let pieces ← pieces? s
    if pieces.length == 8 then some pieces else none
  | some (front, back) =>
    let left ← if front.contains '.' then none else pieces? front
    let right ← pieces? back
    let count := left.length + right.length
    if count ≤ 7 then some (left ++ List.replicate (8 - count) 0 ++ right) else none

/-- The first of the longest runs of two zeros or more: where it begins, and its length. -/
def longestZeros (pieces : List Nat) : Option (Nat × Nat) :=
  let runs := (List.range pieces.length).map fun i => (i, ((pieces.drop i).takeWhile (· == 0)).length)
  let best := runs.foldl (fun best run => if best.2 < run.2 then run else best) (0, 1)
  if best.2 < 2 then none else some best

/-- The text of an address of the sixth version. -/
def renderIpv6 (pieces : List Nat) : String :=
  let join (pieces : List Nat) : String :=
    ":".intercalate (pieces.map fun n => String.ofList (Nat.toDigits 16 n))
  match longestZeros pieces with
  | none => join pieces
  | some (start, length) => join (pieces.take start) ++ "::" ++ join (pieces.drop (start + length))

/-! ## Hosts -/

/-- The characters that no domain name holds. -/
def isForbiddenInDomain (c : Char) : Bool :=
  c ≤ ' ' || c == '\x7F' || "%#/:<>?@[\\]^|".toList.contains c

/-- The characters that no other host holds. -/
def isForbiddenInHost (c : Char) : Bool :=
  "\x00\t\n\r #/:<>?@[\\]^|".toList.contains c

/-- The address between brackets. -/
def bracketed (s : List Char) : Except UrlError Host :=
  match s.getLast? with
  | some ']' =>
    match ipv6? (s.dropLast.drop 1) with
    | some pieces => .ok (.ipv6 pieces)
    | none => .error .invalidIpv6
  | _ => .error .invalidIpv6

/-- The host of a special URL, whose domain names are decoded and written in small letters. -/
def ofSpecial (s : List Char) : Except UrlError Host :=
  if s.head? == some '[' then bracketed s
  else
    match String.fromUTF8? ⟨(percentDecode s).toArray⟩ with
    | none => .error .invalidDomain
    | some decoded =>
      let name := lowercase decoded.toList
      if name.any isForbiddenInDomain then .error .invalidDomain
      else if name.isEmpty then .error .emptyHost
      else if endsInNumber name then
        match ipv4? name with
        | some address => .ok (.ipv4 address)
        | none => .error .invalidIpv4
      else .ok (.domain (String.ofList name))

/-- The host of any other URL, which is kept as it is written. -/
def ofOther (s : List Char) : Except UrlError Host :=
  if s.head? == some '[' then bracketed s
  else if s.any isForbiddenInHost then .error .invalidCharacter
  else .ok (.domain (String.ofList (percentEncode isVisible s)))

/-- The text of a host. -/
def render : Host → String
  | .domain name => name
  | .ipv4 address => renderIpv4 address
  | .ipv6 pieces => "[" ++ renderIpv6 pieces ++ "]"

end Host

end Periscope.Http
